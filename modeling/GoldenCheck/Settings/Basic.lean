import GoldenCheck.Diff
import GoldenCheck.Lint

/-!
# Settings

What fixtures are checked for, and where they are.  Settings have defaults, are
read from a file, and are overridden by options.
-/

namespace GoldenCheck

/-! ## Named choices -/

/-- The values of a closed choice with their names, in the order in which
messages list them. -/
abbrev Choices (α : Type) := List (Text × α)

namespace Choices

/-- The names of the values. -/
def names {α : Type} (choices : Choices α) : List Text :=
  choices.map Prod.fst

/-- The value with a name. -/
def read? {α : Type} (choices : Choices α) (name : Text) : Option α :=
  choices.lookup name

/-- The name of a value. -/
def nameOf {α : Type} [DecidableEq α] (choices : Choices α) (value : α) : Text :=
  match choices.find? fun choice => choice.2 = value with
  | some choice => choice.1
  | none => []

end Choices

/-- The names of the header policies. -/
def headerChoices : Choices Lint.HeaderPolicy :=
  [("optional", .optional), ("required", .required), ("forbidden", .forbidden)]

/-- The names of the rule orders. -/
def ruleOrderChoices : Choices Lint.RuleOrder :=
  [("any", .any), ("alphabetical", .alphabetical)]

/-- The names of the modes of comparison. -/
def compareModeChoices : Choices CompareMode :=
  [("exact", .exact), ("normalize-line-endings", .normalizeLineEndings)]

/-! ## The settings -/

/-- All settings.  The two folders are relative to the root. -/
structure Settings where
  /-- The tool that ignore comments name. -/
  tool : Text
  /-- Where the expected files are. -/
  expectedDir : Path
  /-- Where the input files are. -/
  inputDir : Path
  /-- What the name of an expected file adds to that of its input. -/
  expectedSuffix : Text
  header : Lint.HeaderPolicy
  ruleOrder : Lint.RuleOrder
  strictSpacing : Bool
  compareMode : CompareMode
  /-- The folder that holds the settings file. -/
  root : Path
  deriving DecidableEq

namespace Settings

/-- The settings when nothing is set, under a root. -/
def defaults (root : Path) : Settings where
  tool := "pyright"
  expectedDir := Path.ofText "test/expected"
  inputDir := Path.ofText "test"
  expectedSuffix := "_quickfixed"
  header := .optional
  ruleOrder := .any
  strictSpacing := false
  compareMode := .exact
  root := root

/-- The folder of the expected files, seen from the root. -/
def fullExpectedDir (settings : Settings) : Path :=
  settings.root.join settings.expectedDir

/-- The folder of the input files, seen from the root. -/
def fullInputDir (settings : Settings) : Path :=
  settings.root.join settings.inputDir

/-- What fixtures are asked for. -/
def policy (settings : Settings) : Lint.Policy :=
  ⟨settings.header, settings.ruleOrder, settings.strictSpacing⟩

/-- Changes to settings.  What is not given stays as it is, and strictness can
only be added. -/
structure Overrides where
  tool : Option Text := none
  expectedDir : Option Path := none
  inputDir : Option Path := none
  expectedSuffix : Option Text := none
  header : Option Lint.HeaderPolicy := none
  ruleOrder : Option Lint.RuleOrder := none
  strictSpacing : Bool := false
  compareMode : Option CompareMode := none
  root : Option Path := none

/-- Settings with changes. -/
def override (settings : Settings) (changes : Overrides) : Settings where
  tool := changes.tool.getD settings.tool
  expectedDir := changes.expectedDir.getD settings.expectedDir
  inputDir := changes.inputDir.getD settings.inputDir
  expectedSuffix := changes.expectedSuffix.getD settings.expectedSuffix
  header := changes.header.getD settings.header
  ruleOrder := changes.ruleOrder.getD settings.ruleOrder
  strictSpacing := settings.strictSpacing || changes.strictSpacing
  compareMode := changes.compareMode.getD settings.compareMode
  root := changes.root.getD settings.root

end Settings

end GoldenCheck
