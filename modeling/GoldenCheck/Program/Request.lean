import GoldenCheck.Problem.Report
import GoldenCheck.Settings.Basic

/-!
# Requests

What a command line asks for, once it has been understood.
-/

namespace GoldenCheck.Program

/-- Lint fixtures. -/
structure CheckRequest where
  /-- The patterns that select the fixtures; without any, the expected folder is
  meant. -/
  patterns : List Text
  /-- The file for the report; without one, problems are shown as notices. -/
  output : Option Path
  format : Problem.ReportFormat
  /-- How many kinds of problems to count, if any are counted. -/
  countLimit : Option Nat
  header : Option Lint.HeaderPolicy
  ruleOrder : Option Lint.RuleOrder
  strictSpacing : Bool
  /-- Whether to look for inputs too. -/
  checkPairs : Bool
  /-- The number of threads, or zero for one per core. -/
  threads : Nat

/-- Compare a golden file with an actual output. -/
structure CompareRequest where
  expected : Path
  actual : Path
  /-- Whether to replace a golden file that differs. -/
  update : Bool
  mode : Option CompareMode

/-- List the pairs of expected files and inputs. -/
structure PairsRequest where
  expectedDir : Option Path
  inputDir : Option Path
  expectedSuffix : Option Text

/-- What to do. -/
inductive Command where
  | check (request : CheckRequest)
  | compare (request : CompareRequest)
  | pairs (request : PairsRequest)

/-- A whole request. -/
structure Request where
  verbose : Bool
  settingsFile : Option Path
  command : Command

/-- The names of the forms of a report. -/
def formatChoices : Choices Problem.ReportFormat :=
  [("text", .text), ("json", .json)]

end GoldenCheck.Program
