import GoldenCheck.Text.Numeral

/-!
# Glob patterns

In a pattern `?` stands for one character, `*` for any number of them, and
`[...]` or `[!...]` for one character inside or outside a class.  `**` stands
for any number of folders and must be a whole component.  There is no escape
character; a class of one character takes its place.
-/

namespace GoldenCheck.Glob

/-- One element of a pattern. -/
inductive Token where
  | char (c : Char)
  | anyChar
  | anyText
  | anyFolders
  /-- One character in one of the inclusive ranges. -/
  | inside (ranges : List (Char × Char))
  /-- One character in none of the inclusive ranges. -/
  | outside (ranges : List (Char × Char))
  deriving DecidableEq

/-- What is wrong with a pattern. -/
inductive Fault where
  | wildcards
  | recursion
  | range
  deriving DecidableEq

/-- What is said about a fault. -/
def Fault.message : Fault → Text
  | .wildcards => "wildcards are either regular `*` or recursive `**`"
  | .recursion => "recursive wildcards must form a single path component"
  | .range => "invalid range pattern"

/-- A fault and the number of characters in front of it. -/
structure PatternError where
  position : Nat
  fault : Fault
  deriving DecidableEq

/-- What is said about a pattern that cannot be read. -/
def PatternError.message (error : PatternError) : Text :=
  Text.cat ["Pattern syntax error near position ", Text.decimal error.position, ": ",
    error.fault.message]

/-! ## Reading -/

/-- The ranges of a class.  A dash between two characters spans a range. -/
def readRanges : Text → List (Char × Char)
  | [] => []
  | [c] => [(c, c)]
  | [c, d] => [(c, c), (d, d)]
  | first :: second :: third :: rest =>
      if second = '-' then
        (first, third) :: readRanges rest
      else
        (first, first) :: readRanges (second :: third :: rest)

/-- Cut a text at the first `]`, which is dropped. -/
def cutClass : Text → Option (Text × Text)
  | [] => none
  | c :: rest =>
      if c = ']' then some ([], rest)
      else (cutClass rest).map fun (front, after) => (c :: front, after)

theorem length_of_cutClass {text front after : Text}
    (cut : cutClass text = some (front, after)) :
    after.length < text.length := by
  induction text generalizing front after with
  | nil => simp [cutClass] at cut
  | cons c rest ih =>
      unfold cutClass at cut
      split at cut
      · simp only [Option.some.injEq, Prod.mk.injEq] at cut
        simp [← cut.2]
      · rcases h : cutClass rest with _ | ⟨front, tail⟩
        · simp [h] at cut
        · simp only [h, Option.map_some, Option.some.injEq, Prod.mk.injEq] at cut
          have shorter := ih h
          rw [cut.2] at shorter
          simp only [List.length_cons]
          omega

/-- Read what follows an opening bracket.  The first character belongs to the
class even if it is `]`. -/
def readClass : Text → Option (Token × Text)
  | [] => none
  | '!' :: c :: rest => (cutClass rest).map fun (front, after) =>
      (.outside (readRanges (c :: front)), after)
  | ['!'] => none
  | c :: rest => (cutClass rest).map fun (front, after) =>
      (.inside (readRanges (c :: front)), after)

theorem length_of_readClass {text after : Text} {token : Token}
    (read : readClass text = some (token, after)) :
    after.length < text.length := by
  unfold readClass at read
  split at read
  · simp at read
  · rename_i c rest
    rcases h : cutClass rest with _ | ⟨front, tail⟩
    · simp [h] at read
    · simp only [h, Option.map_some, Option.some.injEq, Prod.mk.injEq] at read
      have shorter := length_of_cutClass h
      rw [read.2] at shorter
      simp only [List.length_cons]
      omega
  · simp at read
  · rename_i c rest _ _
    rcases h : cutClass rest with _ | ⟨front, tail⟩
    · simp [h] at read
    · simp only [h, Option.map_some, Option.some.injEq, Prod.mk.injEq] at read
      have shorter := length_of_cutClass h
      rw [read.2] at shorter
      simp only [List.length_cons]
      omega

/-- Read the elements of a pattern, given the number of characters in front and
the last of them. -/
def readTokens (position : Nat) (previous : Option Char) (text : Text) :
    Except PatternError (List Token) :=
  match text with
  | [] => .ok []
  | '?' :: rest => do
      let tokens ← readTokens (position + 1) (some '?') rest
      pure (.anyChar :: tokens)
  | '*' :: '*' :: '*' :: _ => .error ⟨position + 2, .wildcards⟩
  | '*' :: '*' :: rest =>
      if previous = none ∨ previous = some '/' then
        match rest with
        | [] => .ok [.anyFolders]
        | '/' :: rest => do
            let tokens ← readTokens (position + 3) (some '/') rest
            pure (.anyFolders :: tokens)
        | _ => .error ⟨position + 2, .recursion⟩
      else
        .error ⟨position - 1, .recursion⟩
  | '*' :: rest => do
      let tokens ← readTokens (position + 1) (some '*') rest
      pure (.anyText :: tokens)
  | '[' :: rest =>
      match h : readClass rest with
      | none => .error ⟨position, .range⟩
      | some (token, after) => do
          have := length_of_readClass h
          let tokens ← readTokens (position + 1 + (rest.length - after.length)) (some ']') after
          pure (token :: tokens)
  | c :: rest => do
      let tokens ← readTokens (position + 1) (some c) rest
      pure (.char c :: tokens)
termination_by text.length
decreasing_by all_goals simp_all <;> omega

/-- Read a pattern. -/
def readPattern (text : Text) : Except PatternError (List Token) :=
  readTokens 0 none text

/-! ## Matching -/

/-- Whether a character lies in one of some ranges. -/
def inRanges (ranges : List (Char × Char)) (c : Char) : Bool :=
  ranges.any fun (low, high) => low ≤ c && c ≤ high

/-- Whether a token that stands for one character admits it. -/
def Token.admits : Token → Char → Bool
  | .char expected, c => expected == c
  | .anyChar, _ => true
  | .inside ranges, c => inRanges ranges c
  | .outside ranges, c => !inRanges ranges c
  | .anyText, _ => false
  | .anyFolders, _ => false

/-- A text and everything that remains of it after dropping characters from the
front. -/
def remainders : Text → List Text
  | [] => [[]]
  | c :: rest => (c :: rest) :: remainders rest

/-- What may remain of a text after a token, given all that may remain before it,
the longest first.  Whatever a wildcard leaves of a shorter remainder it leaves of
the longest one too. -/
def Token.advance (token : Token) (rests : List Text) : List Text :=
  match token with
  | .anyText | .anyFolders =>
      match rests with
      | [] => []
      | longest :: _ => remainders longest
  | _ =>
      rests.filterMap fun rest =>
        match rest with
        | [] => none
        | c :: after => if token.admits c then some after else none

/-- Whether a name matches the tokens of one component: after all of them nothing
may be left. -/
def matchesName (tokens : List Token) (name : Text) : Bool :=
  (tokens.foldl (fun rests token => token.advance rests) [name]).any List.isEmpty

/-- The text that a component spells, if it has no wildcard. -/
def literal? : List Token → Option Text
  | [] => some []
  | .char c :: tokens => (literal? tokens).map fun text => c :: text
  | _ :: _ => none

end GoldenCheck.Glob
