import GoldenCheck.Text.Numeral
import GoldenCheck.Text.Spelled

/-!
# Quoted texts

Messages quote a text that may hold anything.  Quotes, backslashes and the
common controls get a short escape, the other characters without a shape of
their own are spelled by their code point, and all else stands as it is.
-/

namespace GoldenCheck.Text

/-- How one character stands inside quotes. -/
def quoteChar (c : Char) : Text :=
  if c = '\x00' then "\\0"
  else if c = '\t' then "\\t"
  else if c = '\r' then "\\r"
  else if c = '\n' then "\\n"
  else if c = '\x22' then "\\\""
  else if c = '\x5c' then "\\\\"
  else if isSpelled c then cat ["\\u\x7b", hexadecimal c.toNat, "\x7d"]
  else [c]

/-- A text in double quotes. -/
def quote (text : Text) : Text :=
  cat ["\"", text.flatMap quoteChar, "\""]

end GoldenCheck.Text
