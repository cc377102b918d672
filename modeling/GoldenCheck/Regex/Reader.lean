import GoldenCheck.Text.Alphanumeric
import GoldenCheck.Text.Numeral

/-!
# Reading regular expressions

A regular expression is read from front to back, under two switches that it may
turn itself.  Reading keeps no tree: all that is asked of a pattern is whether it
is well formed, how deeply it is nested, and whether it looks for the boundaries
of words.

Patterns are the values of fields, in which no closing brace follows an opening
one.  So no form in braces can be complete, and an opening brace that is not a
literal is always wrong.
-/

namespace GoldenCheck.Regex

/-- What is known of a part of a pattern. -/
structure Measure where
  /-- How deeply its parts are nested. -/
  depth : Nat
  /-- Whether it looks for the boundary of a word of Unicode letters. -/
  wordBoundary : Bool
  deriving DecidableEq

namespace Measure

/-- A part without parts. -/
def leaf : Measure :=
  ⟨0, false⟩

/-- A part inside another one. -/
def deepen (measure : Measure) : Measure :=
  { measure with depth := measure.depth + 1 }

/-- What is known of two parts together. -/
def join (first second : Measure) : Measure :=
  ⟨max first.depth second.depth, first.wordBoundary || second.wordBoundary⟩

/-- A list of parts as one part.  A single part stands for itself. -/
def gather : List Measure → Measure
  | [] => leaf
  | [only] => only
  | parts => (parts.foldl join leaf).deepen

end Measure

/-- A pattern being read. -/
structure State where
  rest : Text
  /-- Whether white space and comments are left out. -/
  freeSpacing : Bool
  /-- Whether characters are those of Unicode, and not bytes. -/
  unicode : Bool
  /-- The names of the groups so far. -/
  names : List Text

/-- A reader of the front of a pattern. -/
abbrev Reader := StateT State Option

namespace Reader

/-- Drop white space and comments from the front of a text.  A comment ends with
its line. -/
def dropSpace (inComment : Bool) : Text → Text
  | [] => []
  | c :: rest =>
      if inComment then dropSpace (c ≠ '\n') rest
      else if Text.isBlank c then dropSpace false rest
      else if c = '#' then dropSpace true rest
      else c :: rest

/-- Skip white space and comments where they are left out. -/
def skipSpace : Reader Unit :=
  modify fun state =>
    if state.freeSpacing then { state with rest := dropSpace false state.rest } else state

/-- The next character, if any. -/
def peek : Reader (Option Char) := do
  pure (← get).rest.head?

/-- The next character. -/
def current : Reader Char := do
  match ← peek with
  | some c => pure c
  | none => failure

/-- The character after the next one. -/
def peekSecond : Reader (Option Char) := do
  pure (← get).rest.tail.head?

/-- The first character that follows the next one.  Where white space is left out
it is passed over, and so is one number sign. -/
def peekAfter : Reader (Option Char) := do
  let state ← get
  let tail := state.rest.tail
  if !state.freeSpacing then
    pure tail.head?
  else
    match tail.dropWhile Text.isBlank with
    | [] => pure tail.head?
    | '#' :: more =>
        match more.dropWhile Text.isBlank with
        | [] => pure tail.head?
        | c :: _ => pure (some c)
    | c :: _ => pure (some c)

/-- Pass the next character. -/
def step : Reader Unit :=
  modify fun state => { state with rest := state.rest.tail }

/-- Pass the next character and the space after it. -/
def stepSkipping : Reader Unit := do
  step
  skipSpace

/-- Pass a text if it comes next, and tell whether it did. -/
def accept (wanted : Text) : Reader Bool := do
  let state ← get
  match wanted.isPrefixOf? state.rest with
  | some rest => do
      set { state with rest := rest }
      pure true
  | none => pure false

/-- Require a condition. -/
def require (condition : Bool) : Reader Unit :=
  if condition then pure () else failure

end Reader

/-! ## Single characters -/

/-- A part of a pattern that stands for at most one character. -/
inductive Primitive where
  /-- A character.  It counts as a byte if it is written with two digits. -/
  | literal (c : Char) (isByte : Bool)
  | dot
  /-- The start or end of a line or of the text. -/
  | anchor
  | wordBoundary
  /-- The digits, the white space or the characters of words, or all others. -/
  | shorthand (negated : Bool)
  /-- The characters of a general category. -/
  | category (letter : Char)

namespace Reader

/-- Read so many hexadecimal digits. -/
def hexDigits : Nat → Reader Text
  | 0 => pure []
  | size + 1 => do
      let c ← current
      require (Text.isHexDigit c)
      stepSkipping
      pure (c :: (← hexDigits size))

/-- Read a character by its code point, from the letter that announces it. -/
def codePoint (size : Nat) : Reader Primitive := do
  stepSkipping
  let value := Text.ofDigitsIn 16 (← hexDigits size)
  require (decide value.isValidChar)
  pure (.literal (Char.ofNat value) (size == 2))

/-- Read a general category by one letter, from the letter that announces it. -/
def categoryLetter : Reader Primitive := do
  stepSkipping
  let letter ← current
  require (letter ≠ '\x7b' && letter ≠ '\x5c')
  stepSkipping
  pure (.category letter)

/-- The controls that have an escape of their own. -/
def controlEscapes : List (Char × Char) :=
  [('a', '\x07'), ('f', '\x0c'), ('t', '\t'), ('n', '\n'), ('r', '\r'), ('v', '\x0b')]

/-- Whether a character stands for itself after a backslash: any of ASCII except
letters, digits and the two that mark the boundaries of words. -/
def isEscapable (c : Char) : Bool :=
  c.toNat < 0x80 && !c.isAlphanum && c ≠ '<' && c ≠ '>'

/-- What a backslash and one character stand for. -/
def escapeOf? (c : Char) : Option Primitive :=
  if isEscapable c then
    some (.literal c false)
  else
    match controlEscapes.lookup c with
    | some control => some (.literal control false)
    | none =>
        match c with
        | 'd' | 's' | 'w' => some (.shorthand false)
        | 'D' | 'S' | 'W' => some (.shorthand true)
        | 'A' | 'z' => some .anchor
        | 'b' | 'B' | '<' | '>' => some .wordBoundary
        | _ => none

/-- Read an escape from its backslash. -/
def escape : Reader Primitive := do
  step
  match ← current with
  | 'x' => codePoint 2
  | 'u' => codePoint 4
  | 'U' => codePoint 8
  | 'p' | 'P' => categoryLetter
  | c =>
      match escapeOf? c with
      | some primitive => do
          step
          pure primitive
      | none => failure

/-- Whether a letter is the name of a general category. -/
def isCategory (letter : Char) : Bool :=
  "clmnpsz".toList.contains letter.toLower

/-- Accept a primitive outside of brackets.  In a pattern of bytes nothing may
match a part of a character. -/
def outside (primitive : Primitive) : Reader Measure := do
  let unicode := (← get).unicode
  match primitive with
  | .literal c isByte => do
      require (unicode || !isByte || c.toNat < 0x80)
      pure .leaf
  | .dot => do
      require unicode
      pure .leaf
  | .anchor => pure .leaf
  | .wordBoundary => pure ⟨0, unicode⟩
  | .shorthand negated => do
      require (unicode || !negated)
      pure .leaf
  | .category letter => do
      require (unicode && isCategory letter)
      pure .leaf

/-- Accept a primitive inside of brackets.  A set of bytes has ASCII only. -/
def inside (primitive : Primitive) : Reader Measure := do
  let unicode := (← get).unicode
  match primitive with
  | .literal c _ => do
      require (unicode || c.toNat < 0x80)
      pure .leaf
  | .shorthand _ | .category _ => outside primitive
  | .dot | .anchor | .wordBoundary => failure

end Reader

end GoldenCheck.Regex
