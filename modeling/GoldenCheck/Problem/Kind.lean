import GoldenCheck.Text.Basic

/-!
# Kinds of problems

All that can be wrong with a fixture or a pair of files, in the order in which
problems of one line are reported.
-/

namespace GoldenCheck.Problem

/-- What is wrong. -/
inductive Kind where
  /-- The brackets hold nothing, or only blanks and commas. -/
  | emptyRuleList
  /-- An entry is not `report` followed by letters. -/
  | invalidRuleId
  /-- A rule is named twice in one list. -/
  | duplicateRuleId
  /-- The rules are out of order where an order is required. -/
  | unsortedRuleIds
  /-- The comment is not spelled `# <tool>: ignore[a, b]`. -/
  | nonCanonicalSpacing
  /-- The comment does not follow its statement after two spaces. -/
  | missingTwoSpaceGap
  /-- There is no header where one is required. -/
  | missingHeader
  /-- There is a header where none is allowed. -/
  | unexpectedHeader
  /-- The header names another file. -/
  | headerPathMismatch
  /-- The name of an expected file lacks the suffix. -/
  | unpairedFixture
  /-- The input of an expected file does not exist. -/
  | missingInput
  /-- The actual output differs from the golden file. -/
  | goldenMismatch
  deriving DecidableEq

namespace Kind

/-- Every kind, in order. -/
def all : List Kind :=
  [.emptyRuleList, .invalidRuleId, .duplicateRuleId, .unsortedRuleIds, .nonCanonicalSpacing,
    .missingTwoSpaceGap, .missingHeader, .unexpectedHeader, .headerPathMismatch,
    .unpairedFixture, .missingInput, .goldenMismatch]

/-- The name of a kind in reports. -/
def name : Kind → Text
  | .emptyRuleList => "empty-rule-list"
  | .invalidRuleId => "invalid-rule-id"
  | .duplicateRuleId => "duplicate-rule-id"
  | .unsortedRuleIds => "unsorted-rule-ids"
  | .nonCanonicalSpacing => "non-canonical-spacing"
  | .missingTwoSpaceGap => "missing-two-space-gap"
  | .missingHeader => "missing-header"
  | .unexpectedHeader => "unexpected-header"
  | .headerPathMismatch => "header-path-mismatch"
  | .unpairedFixture => "unpaired-fixture"
  | .missingInput => "missing-input"
  | .goldenMismatch => "golden-mismatch"

/-- The place of a kind in the order. -/
def rank : Kind → Nat
  | .emptyRuleList => 0
  | .invalidRuleId => 1
  | .duplicateRuleId => 2
  | .unsortedRuleIds => 3
  | .nonCanonicalSpacing => 4
  | .missingTwoSpaceGap => 5
  | .missingHeader => 6
  | .unexpectedHeader => 7
  | .headerPathMismatch => 8
  | .unpairedFixture => 9
  | .missingInput => 10
  | .goldenMismatch => 11

/-- The kind with a given name. -/
def ofName? (text : Text) : Option Kind :=
  all.find? fun kind => kind.name == text

end Kind

end GoldenCheck.Problem
