import GoldenCheck.Text.Basic

/-!
# Rule names

A rule name is `report` followed by at least one ASCII letter, such as
`reportUnknownVariableType`.  Names are put in alphabetical order without
regard to case; names that differ in case only are told apart by their code
points, so the order is total.
-/

namespace GoldenCheck

/-- The letters that may follow `report` in a rule name. -/
def isRuleLetter (c : Char) : Bool :=
  ('a' ≤ c && c ≤ 'z') || ('A' ≤ c && c ≤ 'Z')

/-- Whether a text is `report` followed by at least one ASCII letter. -/
def isRuleName (text : Text) : Bool :=
  match List.isPrefixOf? "report".toList text with
  | some letters => !letters.isEmpty && letters.all isRuleLetter
  | none => false

/-- A text that is a rule name. -/
structure RuleName where
  text : Text
  isRule : isRuleName text = true

/-- Why a text is no rule name. -/
inductive RuleError where
  | empty
  | malformed (name : Text)
  deriving DecidableEq

/-- What is said about a text that is no rule name. -/
def RuleError.message : RuleError → Text
  | .empty => "empty rule identifier"
  | .malformed name =>
      Text.cat [Text.cite name, " is not a rule identifier (expected `report` followed by letters)"]

/-- Read a rule name. -/
def RuleName.parse (text : Text) : Except RuleError RuleName :=
  if text.isEmpty then
    .error .empty
  else if valid : isRuleName text then
    .ok ⟨text, valid⟩
  else
    .error (.malformed text)

/-- Alphabetical order of names: without regard to case first, then by code
points. -/
def compareNames (first second : Text) : Ordering :=
  (compare (first.map Char.toLower) (second.map Char.toLower)).then (compare first second)

/-- Whether the first name may stand before the second in alphabetical
order. -/
def namesInOrder (first second : Text) : Bool :=
  compareNames first second != .gt

/-- The names in alphabetical order. -/
def sortNames (names : List Text) : List Text :=
  names.mergeSort namesInOrder

/-- The names ordered by their code points alone. -/
def sortByCodePoint (names : List Text) : List Text :=
  names.mergeSort fun first second => compare first second != .gt

end GoldenCheck
