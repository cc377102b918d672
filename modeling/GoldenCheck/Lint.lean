import GoldenCheck.Fixture.Basic
import GoldenCheck.Problem.Basic
import GoldenCheck.Text.Quoted

/-!
# Linting fixtures

A fixture is judged by a policy: whether it may or must have a header, whether
rules must be sorted, and whether comments must have their usual spelling.  The
problems come in the order of the lines.
-/

namespace GoldenCheck.Lint

/-- Whether a fixture begins with a header. -/
inductive HeaderPolicy where
  | optional
  | required
  | forbidden
  deriving DecidableEq

/-- Whether the rules of a list must be sorted. -/
inductive RuleOrder where
  | any
  | alphabetical
  deriving DecidableEq

/-- What is asked of a fixture. -/
structure Policy where
  header : HeaderPolicy
  ruleOrder : RuleOrder
  strictSpacing : Bool
  deriving DecidableEq

/-- The gap that separates a comment from its statement. -/
def twoSpaces : Text :=
  [' ', ' ']

/-- A kind of problem with its message, before it gets a place. -/
abbrev Finding := Problem.Kind × Text

/-! ## The header -/

/-- What the policy says about the presence of a header. -/
def headerPresence : HeaderPolicy → Option Fixture.Header → List Finding
  | .required, none =>
      [(.missingHeader, "Fixture does not start with a `# <path>` header")]
  | .forbidden, some header =>
      [(.unexpectedHeader, Text.cat ["Unexpected path header ", header.path.cite])]
  | _, _ => []

/-- Whether a header names the fixture. -/
def headerNaming (path : Path) : Option Fixture.Header → List Finding
  | some header =>
      if header.names path then
        []
      else
        [(.headerPathMismatch,
          Text.cat ["Header names ", header.path.cite, ", but the fixture is ", path.cite])]
  | none => []

/-- What is wrong with the header of a fixture. -/
def headerFindings (policy : Policy) (fixture : Fixture) : List Finding :=
  headerPresence policy.header fixture.header ++ headerNaming fixture.path fixture.header

/-! ## The rules of a comment -/

/-- What is wrong with one entry of a list. -/
def entryFinding? (comment : Comment) (code : Text) : Option Finding :=
  match RuleName.parse code with
  | .ok _ => none
  | .error fault =>
      some (.invalidRuleId, Text.cat ["In ", Text.cite comment.raw, ": ", fault.message])

/-- The finding for a rule that is named twice. -/
def duplicateFinding (code : Text) : Finding :=
  (.duplicateRuleId, Text.cat [Text.cite code, " appears more than once"])

/-- What is wrong with the order of the rules.  Order says something only once
every entry is a rule. -/
def orderFindings (order : RuleOrder) (comment : Comment) : List Finding :=
  if order = .alphabetical ∧ comment.isSorted = false then
    match comment.ruleNames with
    | .ok names =>
        [(.unsortedRuleIds,
          Text.cat ["Rules are not sorted, expected ",
            Text.cite (Text.commaList (sortNames (names.map RuleName.text)))])]
    | .error _ => []
  else
    []

/-- What is wrong with the rules of a comment.  An empty list has no other
fault. -/
def ruleFindings (order : RuleOrder) (comment : Comment) : List Finding :=
  if comment.isEmpty then
    [(.emptyRuleList, Text.cat [Text.cite comment.raw, " suppresses no rules"])]
  else
    comment.codes.filterMap (entryFinding? comment) ++
      comment.duplicates.map duplicateFinding ++
      orderFindings order comment

/-! ## The spacing of a comment -/

/-- Whether a comment has its usual spelling. -/
def spellingFindings (comment : Comment) : List Finding :=
  if comment.isCanonical then
    []
  else
    [(.nonCanonicalSpacing,
      Text.cat ["Expected ", Text.cite comment.canonical, ", got ", Text.cite comment.raw])]

/-- Whether a comment follows its statement after two spaces.  A comment on a
line of its own has no statement. -/
def gapFindings (line : Fixture.Line) : List Finding :=
  if line.statement.isEmpty || line.gap == twoSpaces then
    []
  else
    [(.missingTwoSpaceGap,
      Text.cat ["Suppression should be separated from the statement by two spaces, got ",
        Text.quote line.gap])]

/-- What is wrong with the spacing of a comment. -/
def spacingFindings (strict : Bool) (line : Fixture.Line) (comment : Comment) : List Finding :=
  if strict then spellingFindings comment ++ gapFindings line else []

/-! ## The whole fixture -/

/-- What is wrong with a line that carries a comment. -/
def lineFindings (policy : Policy) (line : Fixture.Line) (comment : Comment) : List Finding :=
  ruleFindings policy.ruleOrder comment ++ spacingFindings policy.strictSpacing line comment

/-- Give findings their place. -/
def place (path : Path) (line : Nat) (findings : List Finding) : List Problem :=
  findings.map fun (kind, message) => ⟨path, line, kind, message⟩

/-- All problems of a fixture, in the order of the lines. -/
def problems (policy : Policy) (fixture : Fixture) : List Problem :=
  place fixture.path 1 (headerFindings policy fixture) ++
    fixture.comments.flatMap fun (number, line, comment) =>
      place fixture.path number (lineFindings policy line comment)

end GoldenCheck.Lint
