import GoldenCheck.Program.Options
import GoldenCheck.Program.Request

/-!
# The command line

Three commands, each with options and words of its own, and two options that may
stand before or after the name of the command.
-/

namespace GoldenCheck.Program

/-! ## Reading values -/

/-- A truth value of a flag. -/
def readFlag? (text : Text) : Option Bool :=
  Choices.read? [("true", true), ("false", false)] text

/-- A path, which is not empty. -/
def readPath? (text : Text) : Option Path :=
  if text.isEmpty then none else some (Path.ofText text)

/-! ## Options -/

/-- Talk about details. -/
def verboseOption : TypedOption Bool := ⟨"verbose", some 'v', .flag, "VERBOSE", readFlag?⟩

/-- Use a given settings file. -/
def configFileOption : TypedOption Path := ⟨"config-file", none, .value, "CONFIG_FILE", readPath?⟩

/-- Write the report to a file. -/
def outputOption : TypedOption Path := ⟨"output", some 'o', .value, "OUTPUT", readPath?⟩

/-- The form of the report. -/
def outputFormatOption : TypedOption Problem.ReportFormat :=
  ⟨"output-format", none, .value, "OUTPUT_FORMAT", formatChoices.read?⟩

/-- Count problems by kind. -/
def countErrorsOption : TypedOption Nat :=
  ⟨"count-errors", none, .attached "5", "COUNT_ERRORS", Text.word64?⟩

/-- Whether fixtures have headers. -/
def headerOption : TypedOption Lint.HeaderPolicy :=
  ⟨"header", none, .value, "HEADER", headerChoices.read?⟩

/-- Whether rules are sorted. -/
def ruleOrderOption : TypedOption Lint.RuleOrder :=
  ⟨"rule-order", none, .value, "RULE_ORDER", ruleOrderChoices.read?⟩

/-- Whether comments have their usual spelling. -/
def strictSpacingOption : TypedOption Bool :=
  ⟨"strict-spacing", none, .flag, "STRICT_SPACING", readFlag?⟩

/-- Look for inputs too. -/
def checkPairsOption : TypedOption Bool := ⟨"check-pairs", none, .flag, "CHECK_PAIRS", readFlag?⟩

/-- The number of threads. -/
def threadsOption : TypedOption Nat := ⟨"threads", some 'j', .value, "THREADS", Text.word64?⟩

/-- Replace a golden file that differs. -/
def updateOption : TypedOption Bool := ⟨"update", none, .flag, "UPDATE", readFlag?⟩

/-- How texts are compared. -/
def compareModeOption : TypedOption CompareMode :=
  ⟨"compare-mode", none, .value, "COMPARE_MODE", compareModeChoices.read?⟩

/-- Where the expected files are. -/
def expectedDirOption : TypedOption Path :=
  ⟨"expected-dir", none, .value, "EXPECTED_DIR", readPath?⟩

/-- Where the inputs are. -/
def inputDirOption : TypedOption Path := ⟨"input-dir", none, .value, "INPUT_DIR", readPath?⟩

/-- What the name of an expected file adds. -/
def expectedSuffixOption : TypedOption Text :=
  ⟨"expected-suffix", none, .value, "EXPECTED_SUFFIX", some⟩

/-- The ending of the variable that sets which notices are shown. -/
def logVariable : Text := "LOG"

/-! ## Options of every command -/

/-- The options that every command has. -/
def generalOptions : List OptionSpec :=
  [verboseOption.spec, configFileOption.spec]

/-- The values of the options that every command has. -/
structure General where
  verbose : Option (Sourced Bool)
  settingsFile : Option (Sourced Path)

/-- Read the options that every command has. -/
def readGeneral (environment : Environment) (arguments : Arguments) :
    Except Refusal General := do
  let verbose ← arguments.get environment verboseOption
  let settingsFile ← arguments.get environment configFileOption
  pure ⟨verbose, settingsFile⟩

/-- The value of an option that may stand before and after the name of the
command.  The later place counts, unless only the earlier one is on the command
line. -/
def later {α : Type} (before after : Option (Sourced α)) : Option α :=
  match before, after with
  | some ⟨.commandLine, value⟩, some ⟨.environment, _⟩ => some value
  | some ⟨_, value⟩, none => some value
  | _, after => after.map Sourced.value

/-! ## Commands -/

/-- The commands by name, and a word that asks for help. -/
inductive CommandName where
  | check
  | compare
  | pairs
  | help
  deriving DecidableEq

/-- The names of the commands. -/
def commandChoices : Choices CommandName :=
  [("check", .check), ("compare", .compare), ("pairs", .pairs), ("help", .help)]

/-- The options of a command. -/
def CommandName.options : CommandName → List OptionSpec
  | .check =>
      [outputOption.spec, outputFormatOption.spec, countErrorsOption.spec, headerOption.spec,
        ruleOrderOption.spec, strictSpacingOption.spec, checkPairsOption.spec,
        threadsOption.spec]
  | .compare => [updateOption.spec, compareModeOption.spec]
  | .pairs => [expectedDirOption.spec, inputDirOption.spec, expectedSuffixOption.spec]
  | .help => []

/-- What is wrong with a word after the name of a command, given the number of
words before it.  Patterns may be any texts, a comparison has two paths, and the
list of pairs has no words. -/
def CommandName.wordFault? (name : CommandName) (before : Nat) (word : Text) : Option Fault :=
  match name with
  | .check => none
  | .compare =>
      if 2 ≤ before then some (.unexpectedWord word)
      else if (readPath? word).isSome then none
      else some (.invalidValue (if before = 0 then "expected" else "actual") word)
  | .pairs | .help => some (.unexpectedWord word)

/-- What may stand in front of the name of a command. -/
def topGrammar : Grammar where
  options := generalOptions
  isCommand := fun word => (commandChoices.read? word).isSome
  wordFault? := fun _ word => some (.unknownCommand word)

/-- What may stand after the name of a command. -/
def CommandName.grammar (name : CommandName) : Grammar where
  options := generalOptions ++ name.options
  isCommand := fun _ => false
  wordFault? := name.wordFault?

/-- A request to lint fixtures. -/
def readCheck (environment : Environment) (arguments : Arguments) :
    Except Refusal CheckRequest := do
  let output ← arguments.value? environment outputOption
  let format ← arguments.value? environment outputFormatOption
  let countLimit ← arguments.value? environment countErrorsOption
  let header ← arguments.value? environment headerOption
  let ruleOrder ← arguments.value? environment ruleOrderOption
  let strictSpacing ← arguments.value? environment strictSpacingOption
  let checkPairs ← arguments.value? environment checkPairsOption
  let threads ← arguments.value? environment threadsOption
  pure
    { patterns := arguments.words
      output := output
      format := format.getD .text
      countLimit := countLimit
      header := header
      ruleOrder := ruleOrder
      strictSpacing := strictSpacing.getD false
      checkPairs := checkPairs.getD false
      threads := threads.getD 0 }

/-- A path given as a word. -/
def readPathWord (name word : Text) : Except Refusal Path :=
  match readPath? word with
  | some path => .ok path
  | none => .error (.fault (.invalidValue name word))

/-- The two files of a comparison. -/
def readTwoPaths : List Text → Except Refusal (Path × Path)
  | [] => .error (.fault (.missingWord "expected"))
  | [_] => .error (.fault (.missingWord "actual"))
  | [expected, actual] => do
      pure (← readPathWord "expected" expected, ← readPathWord "actual" actual)
  | _ :: _ :: word :: _ => .error (.fault (.unexpectedWord word))

/-- A request to compare two files. -/
def readCompare (environment : Environment) (arguments : Arguments) :
    Except Refusal CompareRequest := do
  let (expected, actual) ← readTwoPaths arguments.words
  let update ← arguments.value? environment updateOption
  let mode ← arguments.value? environment compareModeOption
  pure
    { expected := expected
      actual := actual
      update := update.getD false
      mode := mode }

/-- A request to list pairs. -/
def readPairs (environment : Environment) (arguments : Arguments) :
    Except Refusal PairsRequest := do
  let expectedDir ← arguments.value? environment expectedDirOption
  let inputDir ← arguments.value? environment inputDirOption
  let expectedSuffix ← arguments.value? environment expectedSuffixOption
  pure ⟨expectedDir, inputDir, expectedSuffix⟩

/-- What is asked for after the word for help: nothing, or help on a command. -/
def readHelp (words : List Text) : Refusal :=
  match words with
  | [] => .help
  | [name] =>
      if (commandChoices.read? name).isSome then .help else .fault (.unknownCommand name)
  | _ :: word :: _ => .fault (.unknownCommand word)

/-- The command with a name. -/
def readCommand (environment : Environment) (arguments : Arguments) (name : CommandName) :
    Except Refusal Command :=
  match name with
  | .check => do pure (.check (← readCheck environment arguments))
  | .compare => do pure (.compare (← readCompare environment arguments))
  | .pairs => do pure (.pairs (← readPairs environment arguments))
  | .help => .error .help

/-- The request after the name of a command.  A value right before the name is
looked at last. -/
def readAfterName (environment : Environment) (before : Reading) (name : CommandName)
    (rest : List Text) : Except Refusal Request := do
  let (after, _) ← readArguments name.grammar rest .start
  let command ← readCommand environment after.arguments name
  let before ← before.settle
  let generalBefore ← readGeneral environment before.arguments
  let generalAfter ← readGeneral environment after.arguments
  pure
    { verbose := (later generalBefore.verbose generalAfter.verbose).getD false
      settingsFile := later generalBefore.settingsFile generalAfter.settingsFile
      command := command }

/-- Read a command line. -/
def Request.parse (environment : Environment) (arguments : List Text) :
    Except Refusal Request := do
  let (before, rest) ← readArguments topGrammar arguments .start
  match rest with
  | [] => .error (.fault .missingCommand)
  | word :: rest =>
      match commandChoices.read? word with
      | some .help => .error (readHelp rest)
      | some name => readAfterName environment before name rest
      | none => .error (.fault (.unknownCommand word))

/-- What is said to one who asks for help. -/
def helpText : Text :=
  Text.cat [
    "Check golden fixtures carrying `pyright: ignore[...]` suppressions\n\n",
    "Usage: pyright_ignore [OPTIONS] <COMMAND>\n\n",
    "Commands:\n",
    "  check    Check that expected fixtures carry well-formed suppression comments\n",
    "  compare  Compare actual quickfix output with its golden file\n",
    "  pairs    List expected fixtures together with the input files they pair with\n",
    "  help     Print this message\n"]

end GoldenCheck.Program
