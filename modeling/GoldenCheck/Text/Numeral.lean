import GoldenCheck.Text.Basic

/-!
# Numerals

Decimal and hexadecimal numerals, numerals with a comma between thousands, and
counted nouns such as `1 fixture` and `2,000 fixtures`.
-/

namespace GoldenCheck.Text

/-- The decimal numeral of a number. -/
def decimal (n : Nat) : Text :=
  Nat.toDigits 10 n

/-- The hexadecimal numeral of a number, in lower case. -/
def hexadecimal (n : Nat) : Text :=
  Nat.toDigits 16 n

/-- Put a comma after each digit that is followed by a positive multiple of
three digits. -/
def groupThousands : Text → Text
  | [] => []
  | [digit] => [digit]
  | digit :: rest =>
      if rest.length % 3 = 0 then
        digit :: ',' :: groupThousands rest
      else
        digit :: groupThousands rest

/-- The decimal numeral of a number with commas between thousands. -/
def thousands (n : Nat) : Text :=
  groupThousands (decimal n)

/-- A counted noun, in the plural unless there is exactly one. -/
def count (n : Nat) (noun : Text) : Text :=
  cat [thousands n, " ", noun, if n = 1 then [] else ['s']]

/-- The value of a decimal digit. -/
def digitValue (c : Char) : Nat :=
  c.toNat - '0'.toNat

/-- The number that a sequence of decimal digits denotes. -/
def ofDigits (digits : Text) : Nat :=
  digits.foldl (fun value digit => value * 10 + digitValue digit) 0

/-- The value of a hexadecimal digit. -/
def hexValue (c : Char) : Nat :=
  if c.isDigit then c.toNat - '0'.toNat
  else if 'a' ≤ c then c.toNat - 'a'.toNat + 10
  else c.toNat - 'A'.toNat + 10

/-- Whether a character is a hexadecimal digit, in either case. -/
def isHexDigit (c : Char) : Bool :=
  c.isDigit || ('a' ≤ c && c ≤ 'f') || ('A' ≤ c && c ≤ 'F')

/-- The number that digits denote in a base. -/
def ofDigitsIn (base : Nat) (digits : Text) : Nat :=
  digits.foldl (fun value digit => value * base + hexValue digit) 0

/-- Read an unsigned 64-bit number: an optional plus sign and at least one
decimal digit. -/
def word64? (text : Text) : Option Nat :=
  let digits := match text with
    | '+' :: rest => rest
    | _ => text
  if digits.isEmpty || !digits.all Char.isDigit then
    none
  else if ofDigits digits < 1 <<< 64 then
    some (ofDigits digits)
  else
    none

end GoldenCheck.Text
