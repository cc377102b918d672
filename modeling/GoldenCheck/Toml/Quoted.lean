import GoldenCheck.Text.Numeral
import GoldenCheck.Toml.Scan

/-!
# Quoted strings

A string stands between double quotes, where a backslash begins an escape, or
between single quotes, where nothing is special.  Three quotes on each side
allow newlines inside.
-/

namespace GoldenCheck.Toml.Scan

/-! ## Escapes -/

/-- Read exactly the given number of characters of a class. -/
def exactly (accepts : Char → Bool) : Nat → Scan Text
  | 0 => pure []
  | size + 1 => do
      let c ← oneOf accepts
      pure (c :: (← exactly accepts size))

/-- Read a character given by its code point in so many hexadecimal digits. -/
def codePoint (size : Nat) : Scan Char := do
  let value := Text.ofDigitsIn 16 (← exactly Text.isHexDigit size)
  if value.isValidChar then pure (Char.ofNat value) else failure

/-- Read the rest of an escape, after its backslash. -/
def escape : Scan Char := do
  match ← next with
  | 'b' => pure '\x08'
  | 't' => pure '\t'
  | 'n' => pure '\n'
  | 'f' => pure '\x0c'
  | 'r' => pure '\r'
  | '\x22' => pure '\x22'
  | '\x5c' => pure '\x5c'
  | 'u' => codePoint 4
  | 'U' => codePoint 8
  | _ => failure

/-! ## Strings of one line -/

/-- The double quote, which allows escapes. -/
def doubleQuote : Char := '\x22'

/-- The single quote, which does not. -/
def singleQuote : Char := '\x27'

/-- One round of a string of one line, after its opening quote. -/
def lineRound (quote : Char) : Scan (Round Char) := do
  let c ← next
  if c = quote then
    pure ⟨[], true⟩
  else if c = '\x5c' ∧ quote = doubleQuote then
    pure ⟨[← escape], false⟩
  else if isLineChar c then
    pure ⟨[c], false⟩
  else
    failure

/-- Read a string of one line. -/
def lineString (quote : Char) : Scan Text := do
  char quote
  collect (lineRound quote)

/-! ## Strings of many lines -/

/-- Skip a newline that a backslash hides, with the blanks before it and all
blanks and newlines after it. -/
def hiddenNewline : Scan Unit := do
  blanks
  newline
  let _ ← collect do
    blanks
    match ← peek with
    | some '\n' | some '\r' => do newline; pure (Round.mk ([] : List Unit) false)
    | _ => pure ⟨[], true⟩

/-- Read a run of quotes inside a string of many lines.  Up to two of them stand
for themselves.  Three end the string, and up to two more may come before the
three. -/
def quoteRun (quote : Char) : Scan (Round Char) := do
  let run ← many (· == quote)
  if run.length < 3 then
    pure ⟨run, false⟩
  else if run.length ≤ 5 then
    pure ⟨run.drop 3, true⟩
  else
    failure

/-- One round of a string of many lines.  Every newline counts as one line
feed. -/
def blockRound (quote : Char) : Scan (Round Char) := do
  match ← peek with
  | none => failure
  | some c =>
      if c = quote then
        quoteRun quote
      else if c = '\n' ∨ c = '\r' then
        newline
        pure ⟨['\n'], false⟩
      else if c = '\x5c' ∧ quote = doubleQuote then
        let _ ← next
        (do hiddenNewline; pure ⟨[], false⟩) <|> (do pure ⟨[← escape], false⟩)
      else
        pure ⟨[← oneOf isLineChar], false⟩

/-- Read a string of many lines.  A newline right after the opening quotes is
not part of it. -/
def blockString (quote : Char) : Scan Text := do
  word [quote, quote, quote]
  let _ ← optional newline
  collect (blockRound quote)

/-- Read a quoted string. -/
def quoted (quote : Char) : Scan Text := fun text =>
  if [quote, quote, quote].isPrefixOf text then
    blockString quote text
  else
    lineString quote text

end GoldenCheck.Toml.Scan
