import GoldenCheck.Toml.Item
import GoldenCheck.Toml.Quoted

/-!
# Numbers and times

A number begins with a digit or a sign.  It is a date or a time, a floating-point
number, or an integer, and is read as the first of these that fits.  Underscores
may stand between digits.
-/

namespace GoldenCheck.Toml.Scan

/-! ## Runs of digits -/

/-- One round of a run of digits: another digit, or an underscore and a digit. -/
def digitRound (isDigit : Char → Bool) : Scan (Round Char) := do
  match ← peek with
  | some '_' => do
      let _ ← next
      pure ⟨[← oneOf isDigit], false⟩
  | some c => do
      if isDigit c then
        let _ ← next
        pure ⟨[c], false⟩
      else
        pure ⟨[], true⟩
  | none => pure ⟨[], true⟩

/-- Read at least one digit, without the underscores between digits. -/
def digitRun (isDigit : Char → Bool) : Scan Text := do
  let first ← oneOf isDigit
  pure (first :: (← collect (digitRound isDigit)))

/-- Read an optional sign, and tell whether it is negative. -/
def sign : Scan Bool := do
  if ← accept '-' then
    pure true
  else
    let _ ← accept '+'
    pure false

/-- Read a decimal whole number, which has no leading zero. -/
def wholeDigits : Scan Text := do
  if ← accept '0' then pure ['0'] else digitRun Char.isDigit

/-! ## Integers -/

/-- The least whole number that does not fit into 64 bits with a sign. -/
def signed64Limit : Nat :=
  1 <<< 63

/-- A value, if it fits into 64 bits with a sign. -/
def signed64 (value : Int) : Scan Item :=
  if -signed64Limit ≤ value ∧ value < signed64Limit then pure (.integer value) else failure

/-- Read an integer in a base other than ten, after its mark. -/
def basedInteger (mark : Text) (base : Nat) : Scan Item := do
  word mark
  let digits ← digitRun fun c => Text.isHexDigit c && Text.hexValue c < base
  signed64 (Text.ofDigitsIn base digits)

/-- Read a decimal integer. -/
def decimalInteger : Scan Item := do
  let negative ← sign
  let value : Int := Text.ofDigits (← wholeDigits)
  signed64 (if negative then -value else value)

/-- Read an integer. -/
def integer : Scan Item := fun text =>
  if List.isPrefixOf "0x".toList text then basedInteger "0x" 16 text
  else if List.isPrefixOf "0o".toList text then basedInteger "0o" 8 text
  else if List.isPrefixOf "0b".toList text then basedInteger "0b" 2 text
  else decimalInteger text

/-! ## Floating-point numbers -/

/-- Read an exponent with its mark. -/
def exponent : Scan Int := do
  let _ ← oneOf fun c => c == 'e' || c == 'E'
  let negative ← sign
  let value : Int := Text.ofDigits (← digitRun Char.isDigit)
  pure (if negative then -value else value)

/-- Read the digits after a decimal point, with the point. -/
def fraction : Scan Text := do
  char '.'
  digitRun Char.isDigit

/-- Read a number with a fraction, an exponent or both.  One that is too large is
refused, while one that is too small becomes the negative infinity. -/
def finiteFloat : Scan Item := do
  let negative ← sign
  let whole ← wholeDigits
  let part ← optional fraction
  let power ← match part with
    | some _ => do pure ((← optional exponent).getD 0)
    | none => exponent
  let digits := part.getD []
  let value := Decimal.Binary64.ofDecimal negative
    (Text.ofDigits (whole ++ digits)) (power - digits.length)
  if value = .infinite false then failure else pure (.float value)

/-- Read the name of an infinity or of the number that is none, with a sign. -/
def namedFloat : Scan Item := do
  let negative ← sign
  (do word "inf"; pure (.float (.infinite negative))) <|> (do word "nan"; pure (.float .nan))

/-! ## Dates and times -/

/-- Read a number of so many digits between two bounds. -/
def bounded (size low high : Nat) : Scan Nat := do
  let value := Text.ofDigits (← exactly Char.isDigit size)
  if low ≤ value ∧ value ≤ high then pure value else failure

/-- The number of days of a month. -/
def daysIn (year month : Nat) : Nat :=
  if month = 2 then
    if year % 4 = 0 ∧ (year % 100 ≠ 0 ∨ year % 400 = 0) then 29 else 28
  else if month = 4 ∨ month = 6 ∨ month = 9 ∨ month = 11 then 30
  else 31

/-- Read a date. -/
def date : Scan Unit := do
  let year ← bounded 4 0 9999
  char '-'
  let month ← bounded 2 1 12
  char '-'
  let _ ← bounded 2 1 (daysIn year month)

/-- Read a time of day.  A minute may have a leap second. -/
def time : Scan Unit := do
  let _ ← bounded 2 0 23
  char ':'
  let _ ← bounded 2 0 59
  char ':'
  let _ ← bounded 2 0 60
  let _ ← optional do
    char '.'
    let _ ← oneOf Char.isDigit
    many Char.isDigit

/-- Read the offset of a time from that of Greenwich. -/
def offset : Scan Unit := do
  let mark ← oneOf fun c => c == 'Z' || c == 'z' || c == '+' || c == '-'
  if mark = '+' ∨ mark = '-' then
    let _ ← bounded 2 0 23
    char ':'
    let _ ← bounded 2 0 59

/-- Read the time that may follow a date. -/
def timeOfDate : Scan Unit := do
  let _ ← oneOf fun c => c == 'T' || c == 't' || c == ' '
  time
  let _ ← optional offset

/-- Read a date, a time, or both. -/
def datetime : Scan Item := do
  (do date; let _ ← optional timeOfDate) <|> time
  pure .datetime

/-- Read a number or a time. -/
def number : Scan Item :=
  datetime <|> finiteFloat <|> namedFloat <|> integer

end GoldenCheck.Toml.Scan
