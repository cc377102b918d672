import GoldenCheck.Problem.Basic

/-!
# Reports

A list of problems is written as a text with one line per problem, or as an
indented JSON document.
-/

namespace GoldenCheck.Problem

/-- The form of a report. -/
inductive ReportFormat where
  | text
  | json
  deriving DecidableEq

/-- A report with one line per problem. -/
def textReport (problems : List Problem) : Text :=
  (problems.map fun problem => problem.display ++ ['\n']).flatten

/-! ## JSON -/

/-- A hexadecimal numeral of at least four digits. -/
def fourDigits (n : Nat) : Text :=
  let digits := Text.hexadecimal n
  List.replicate (4 - digits.length) '0' ++ digits

/-- How one character stands in a JSON string. -/
def jsonChar (c : Char) : Text :=
  if c = '\x22' then "\\\""
  else if c = '\x5c' then "\\\\"
  else if c = '\n' then "\\n"
  else if c = '\r' then "\\r"
  else if c = '\t' then "\\t"
  else if c = '\x08' then "\\b"
  else if c = '\x0c' then "\\f"
  else if c.toNat < 0x20 then "\\u" ++ fourDigits c.toNat
  else [c]

/-- A JSON string. -/
def jsonString (text : Text) : Text :=
  Text.cat ["\"", text.flatMap jsonChar, "\""]

/-- One problem of a JSON report. -/
def jsonProblem (problem : Problem) : Text :=
  Text.cat [
    "    \x7b\n",
    "      \"path\": ", jsonString problem.path.display, ",\n",
    "      \"line\": ", Text.decimal problem.line, ",\n",
    "      \"name\": ", jsonString problem.kind.name, ",\n",
    "      \"description\": ", jsonString problem.message, "\n",
    "    \x7d"]

/-- The list of a JSON report. -/
def jsonList (problems : List Problem) : Text :=
  if problems.isEmpty then
    "[]"
  else
    Text.cat ["[\n", Text.join ",\n" (problems.map jsonProblem), "\n  ]"]

/-- A report as an indented JSON document. -/
def jsonReport (problems : List Problem) : Text :=
  Text.cat ["\x7b\n  \"errors\": ", jsonList problems, "\n\x7d"]

/-- A report in a given form. -/
def report : ReportFormat → List Problem → Text
  | .text => textReport
  | .json => jsonReport

end GoldenCheck.Problem
