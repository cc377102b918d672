import GoldenCheck.Text.Quoted

/-!
# Comparing texts

A golden text and an actual text are compared character by character, or after
every `\r\n` has been made `\n`.  A difference is located at the first line where
the two depart from each other.
-/

namespace GoldenCheck

/-- How two texts are compared. -/
inductive CompareMode where
  /-- Every character counts. -/
  | exact
  /-- `\r\n` and `\n` are the same. -/
  | normalizeLineEndings
  deriving DecidableEq

namespace Diff

/-- Make every `\r\n` a `\n`. -/
def unifyEndings : Text → Text
  | [] => []
  | [c] => [c]
  | c :: d :: rest =>
      if c = '\r' ∧ d = '\n' then '\n' :: unifyEndings rest else c :: unifyEndings (d :: rest)

/-- A text as a mode sees it. -/
def normalize : CompareMode → Text → Text
  | .exact, text => text
  | .normalizeLineEndings, text => unifyEndings text

/-- Whether two texts are equal under a mode. -/
def agree (mode : CompareMode) (expected actual : Text) : Bool :=
  normalize mode expected == normalize mode actual

/-- The first line at which two texts depart.  A side without a line has
ended. -/
structure Mismatch where
  line : Nat
  expected : Option Text
  actual : Option Text
  deriving DecidableEq

/-- One side of a mismatch. -/
def describeSide : Option Text → Text
  | some line => Text.quote line
  | none => "end of file"

/-- What is said about a mismatch. -/
def Mismatch.message (mismatch : Mismatch) : Text :=
  Text.cat ["line ", Text.decimal mismatch.line, ": expected ", describeSide mismatch.expected,
    ", got ", describeSide mismatch.actual]

/-- The first place where two lists of lines differ, counting from a given
number. -/
def firstDifference : Nat → List Text → List Text → Option Mismatch
  | _, [], [] => none
  | number, expected :: _, [] => some ⟨number, some expected, none⟩
  | number, [], actual :: _ => some ⟨number, none, some actual⟩
  | number, expected :: expectedRest, actual :: actualRest =>
      if expected = actual then
        firstDifference (number + 1) expectedRest actualRest
      else
        some ⟨number, some expected, some actual⟩

/-- The first mismatch of two texts under a mode.  Lines keep their endings. -/
def firstMismatch (mode : CompareMode) (expected actual : Text) : Option Mismatch :=
  firstDifference 1 (Text.segments (normalize mode expected))
    (Text.segments (normalize mode actual))

end Diff

end GoldenCheck
