import GoldenCheck.Disk.Path
import GoldenCheck.Problem.Kind
import GoldenCheck.Text.Numeral

/-!
# Problems

A problem has a place, a kind and a message.  Problems are ordered by path,
line, kind and message, and are tallied by kind.
-/

namespace GoldenCheck

/-- Something wrong with a fixture.  Lines count from one; a problem of a whole
file stands at line one. -/
structure Problem where
  path : Path
  line : Nat
  kind : Problem.Kind
  message : Text
  deriving DecidableEq

namespace Problem

/-- A problem as one line of a report. -/
def display (problem : Problem) : Text :=
  Text.cat [problem.path.display, ":", Text.decimal problem.line, ": ", problem.message, " [",
    problem.kind.name, "]"]

/-- The order of problems: path by components, line, kind, message. -/
def compare (first second : Problem) : Ordering :=
  (Path.compare first.path second.path).then <|
    (Ord.compare first.line second.line).then <|
      (Ord.compare first.kind.rank second.kind.rank).then <|
        Ord.compare first.message second.message

/-- The problems in order. -/
def sort (problems : List Problem) : List Problem :=
  problems.mergeSort fun first second => compare first second != .gt

/-! ## Tallies -/

/-- Count one more problem of a kind.  A new kind goes to the end. -/
def countKind (kind : Kind) : List (Kind × Nat) → List (Kind × Nat)
  | [] => [(kind, 1)]
  | (other, number) :: rest =>
      if other = kind then (other, number + 1) :: rest
      else (other, number) :: countKind kind rest

/-- The kinds that occur, each with its number, in ascending order of the
numbers.  Kinds that are equally frequent stay in the order in which they first
occur. -/
def tally (problems : List Problem) : List (Kind × Nat) :=
  (problems.foldl (fun counts problem => countKind problem.kind counts) []).mergeSort
    fun first second => first.2 ≤ second.2

/-- The most frequent kinds, at most `limit` of them, the most frequent last. -/
def topKinds (problems : List Problem) (limit : Nat) : List (Kind × Nat) :=
  ((tally problems).reverse.take limit).reverse

/-- One line of a tally. -/
def tallyLine (count : Kind × Nat) : Text :=
  Text.cat [Text.thousands count.2, " instances of ", count.1.name]

end Problem

end GoldenCheck
