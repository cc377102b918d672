import GoldenCheck.Text.Basic

/-!
# Scanning TOML

A scanner reads something off the front of a text and leaves the rest, or fails.
Repetition is one combinator, which takes its fuel from the length of the text:
every round of a scanner that is repeated here reads at least one character, so
the fuel never decides anything.
-/

namespace GoldenCheck.Toml

/-- A reader of the front of a text. -/
abbrev Scan := StateT Text Option

namespace Scan

/-- The next character, which is left in place. -/
def peek : Scan (Option Char) := do
  pure (← get).head?

/-- Read one character. -/
def next : Scan Char := fun text =>
  match text with
  | [] => none
  | c :: rest => some (c, rest)

/-- Read one character of a class. -/
def oneOf (accepts : Char → Bool) : Scan Char := do
  let c ← next
  if accepts c then pure c else failure

/-- Read one given character. -/
def char (wanted : Char) : Scan Unit := do
  let _ ← oneOf (· == wanted)

/-- Read a given text. -/
def word (wanted : Text) : Scan Unit := fun text =>
  (wanted.isPrefixOf? text).map fun rest => ((), rest)

/-- Read as many characters of a class as there are. -/
def many (accepts : Char → Bool) : Scan Text := fun text =>
  some (text.takeWhile accepts, text.dropWhile accepts)

/-- Read one given character if it comes next, and tell whether it did. -/
def accept (wanted : Char) : Scan Bool := do
  if (← peek) == some wanted then
    let _ ← next
    pure true
  else
    pure false

/-- Read a thing if it can be read. -/
def optional {α : Type} (scan : Scan α) : Scan (Option α) :=
  (some <$> scan) <|> pure none

/-- Nothing is left. -/
def finish : Scan Unit := do
  if (← get).isEmpty then pure () else failure

/-- What one round of a repetition reads, and whether it was the last round. -/
structure Round (α : Type) where
  items : List α
  isLast : Bool

/-- Repeat for at most the given number of rounds. -/
def rounds {α : Type} (round : Scan (Round α)) : Nat → Scan (List α)
  | 0 => failure
  | fuel + 1 => do
      let found ← round
      if found.isLast then
        pure found.items
      else
        pure (found.items ++ (← rounds round fuel))

/-- Repeat until a round says that it was the last one. -/
def collect {α : Type} (round : Scan (Round α)) : Scan (List α) := do
  rounds round ((← get).length + 1)

/-! ## Blanks, newlines and comments -/

/-- Whether a character is a blank within a line. -/
def isBlankChar (c : Char) : Bool :=
  c == ' ' || c == '\t'

/-- Whether a character may stand in a line: a tab, or anything but a control. -/
def isLineChar (c : Char) : Bool :=
  c == '\t' || (' ' ≤ c && c ≠ '\x7f')

/-- Skip the blanks within a line. -/
def blanks : Scan Unit := do
  let _ ← many isBlankChar

/-- Read a newline, with or without a carriage return. -/
def newline : Scan Unit := do
  let _ ← accept '\r'
  char '\n'

/-- Read a comment up to the end of its line. -/
def comment : Scan Unit := do
  char '#'
  let _ ← many isLineChar

/-- Read the end of a line, or of the text. -/
def lineEnd : Scan Unit := do
  if (← get).isEmpty then pure () else newline

/-- Read what may follow something in its line, and the end of the line. -/
def trailing : Scan Unit := do
  blanks
  if (← peek) == some '#' then comment
  lineEnd

/-- One round of `filler`. -/
def fillerRound : Scan (Round Unit) := do
  blanks
  match ← peek with
  | some '#' => do comment; newline; pure ⟨[], false⟩
  | some '\n' | some '\r' => do newline; pure ⟨[], false⟩
  | _ => pure ⟨[], true⟩

/-- Skip blanks, newlines and comments. -/
def filler : Scan Unit := do
  let _ ← collect fillerRound

end Scan

end GoldenCheck.Toml
