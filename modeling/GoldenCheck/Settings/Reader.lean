import GoldenCheck.Settings.Basic
import GoldenCheck.Toml.Document

/-!
# Reading settings

A settings file is a TOML document whose keys are the names of settings.  The
keys are looked at in the order of the document, and the first one that is wrong
is the error.
-/

namespace GoldenCheck

/-- What is wrong with a settings file. -/
inductive SettingsError where
  /-- It is not a TOML document. -/
  | malformed
  /-- A key is not the name of a setting. -/
  | unknownField (name : Text)
  /-- A value has the wrong type. -/
  | wrongType (found : Toml.Item) (wanted : Text)
  /-- A name is not among the names of a choice. -/
  | unknownVariant (name : Text) (known : List Text)
  /-- A choice is neither a name nor a table. -/
  | notChoice
  /-- A choice is a table without keys. -/
  | emptyChoice
  /-- A choice is a table with several keys. -/
  | crowdedChoice
  /-- What stands under the one key of a choice is not a collection. -/
  | notTable (found : Toml.Item)
  /-- What stands under the one key of a choice has keys or elements. -/
  | notEmpty
  /-- What stands under the one key of a choice is a sequence of tables. -/
  | notEmptyTables

/-- An item as an error names it. -/
def Toml.Item.describe : Toml.Item → Text
  | .string text => Text.cat ["string ", Text.quote text]
  | .integer value => Text.cat ["integer ", Text.cite (toString value)]
  | .float value => Text.cat ["floating point ", Text.cite value.display]
  | .boolean value => Text.cat ["boolean ", Text.cite (if value then "true" else "false")]
  | .array _ | .tables _ => "sequence"
  | .datetime | .inlineTable _ _ | .table _ _ => "map"

/-- A list of names as an error offers them. -/
def oneOfNames : List Text → Text
  | [first, second] => Text.cat [Text.cite first, " or ", Text.cite second]
  | names => Text.cat ["one of ", Text.commaList (names.map Text.cite)]

namespace Settings

/-- The names of the settings. -/
def fieldNames : List Text :=
  ["tool", "expected_dir", "input_dir", "expected_suffix", "header", "rule_order",
    "strict_spacing", "compare_mode"]

end Settings

/-- What is said about a settings file. -/
def SettingsError.message : SettingsError → Text
  | .malformed => "invalid document"
  | .unknownField name =>
      Text.cat ["unknown field ", Text.cite name, ", expected ", oneOfNames Settings.fieldNames]
  | .wrongType found wanted =>
      Text.cat ["invalid type: ", found.describe, ", expected ", wanted]
  | .unknownVariant name known =>
      Text.cat ["unknown variant ", Text.cite name, ", expected ", oneOfNames known]
  | .notChoice => "wanted string or table"
  | .emptyChoice => "wanted exactly 1 element, found 0 elements"
  | .crowdedChoice => "wanted exactly 1 element, more than 1 element"
  | .notTable found => Text.cat ["expected table, found ", found.typeName]
  | .notEmpty => "expected empty table"
  | .notEmptyTables => "expected empty array"

namespace Settings

/-- A text. -/
def readText : Toml.Item → Except SettingsError Text
  | .string text => .ok text
  | item => .error (.wrongType item "a string")

/-- A path. -/
def readPath : Toml.Item → Except SettingsError Path
  | .string text => .ok (Path.ofText text)
  | item => .error (.wrongType item "path string")

/-- A truth value. -/
def readFlag : Toml.Item → Except SettingsError Bool
  | .boolean value => .ok value
  | item => .error (.wrongType item "a boolean")

/-- A value of a choice by its name. -/
def readName {α : Type} (choices : Choices α) (name : Text) : Except SettingsError α :=
  match choices.read? name with
  | some value => .ok value
  | none => .error (.unknownVariant name choices.names)

/-- A value of a choice as a table whose one key is the name.  What stands under
the key must be an empty collection. -/
def readOnlyKey {α : Type} (choices : Choices α) : Toml.Entries → Except SettingsError α
  | [] => .error .emptyChoice
  | [(key, item)] => do
      let value ← readName choices key
      match item with
      | .inlineTable _ [] | .table _ [] | .array [] | .tables [] => .ok value
      | .inlineTable _ _ | .table _ _ | .array _ => .error .notEmpty
      | .tables _ => .error .notEmptyTables
      | _ => .error (.notTable item)
  | _ => .error .crowdedChoice

/-- A value of a choice. -/
def readChoice {α : Type} (choices : Choices α) : Toml.Item → Except SettingsError α
  | .string name => readName choices name
  | .inlineTable _ entries | .table _ entries => readOnlyKey choices entries
  | _ => .error .notChoice

/-- Set what one key of the document says. -/
def assign (settings : Settings) (entry : Text × Toml.Item) : Except SettingsError Settings :=
  let (key, item) := entry
  if key = "tool".toList then do
    pure { settings with tool := ← readText item }
  else if key = "expected_dir".toList then do
    pure { settings with expectedDir := ← readPath item }
  else if key = "input_dir".toList then do
    pure { settings with inputDir := ← readPath item }
  else if key = "expected_suffix".toList then do
    pure { settings with expectedSuffix := ← readText item }
  else if key = "header".toList then do
    pure { settings with header := ← readChoice headerChoices item }
  else if key = "rule_order".toList then do
    pure { settings with ruleOrder := ← readChoice ruleOrderChoices item }
  else if key = "strict_spacing".toList then do
    pure { settings with strictSpacing := ← readFlag item }
  else if key = "compare_mode".toList then do
    pure { settings with compareMode := ← readChoice compareModeChoices item }
  else
    .error (.unknownField key)

/-- Read settings that lie under a root. -/
def parse (root : Path) (text : Text) : Except SettingsError Settings :=
  match Toml.document? text with
  | none => .error .malformed
  | some entries => entries.foldlM assign (defaults root)

end Settings

end GoldenCheck
