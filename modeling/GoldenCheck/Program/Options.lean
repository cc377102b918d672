import GoldenCheck.Text.Basic

/-!
# Options and words

A command line is a list of arguments.  Those that begin with a dash are
options, with a long name after two dashes or a letter after one; the others are
words.  Letters may be written together, and an option may have a value.  An
option that is not given may be set by a variable of the environment.
-/

namespace GoldenCheck.Program

/-! ## What may be given -/

/-- How an option gets its value. -/
inductive Arity where
  /-- It has none: that it is given is all it says. -/
  | flag
  /-- The value is attached to it, or is the next argument. -/
  | value
  /-- The value is attached to it with an equals sign, or else is the one
  here. -/
  | attached (missing : Text)

/-- An option. -/
structure OptionSpec where
  /-- The long name, without its dashes. -/
  name : Text
  letter : Option Char
  arity : Arity
  /-- The end of the name of its variable. -/
  variableEnding : Text
  /-- Whether a text is a value of the option. -/
  admits : Text → Bool

/-- An option with the reader of its values. -/
structure TypedOption (α : Type) where
  name : Text
  letter : Option Char
  arity : Arity
  variableEnding : Text
  parse : Text → Option α

/-- An option without the type of its values. -/
def TypedOption.spec {α : Type} (option : TypedOption α) : OptionSpec where
  name := option.name
  letter := option.letter
  arity := option.arity
  variableEnding := option.variableEnding
  admits := fun text => (option.parse text).isSome

/-- What is wrong with a command line. -/
inductive Fault where
  | unknownOption (argument : Text)
  | repeatedOption (name : Text)
  | unwantedValue (name : Text)
  | missingValue (name : Text)
  | invalidValue (name value : Text)
  | unexpectedWord (word : Text)
  | missingWord (name : Text)
  | unknownCommand (word : Text)
  | missingCommand
  deriving DecidableEq

/-- What is said about a command line. -/
def Fault.message : Fault → Text
  | .unknownOption argument => Text.cat ["unexpected argument ", Text.cite argument]
  | .repeatedOption name => Text.cat [Text.cite name, " is given more than once"]
  | .unwantedValue name => Text.cat [Text.cite name, " takes no value"]
  | .missingValue name => Text.cat [Text.cite name, " needs a value"]
  | .invalidValue name value =>
      Text.cat ["invalid value ", Text.cite value, " for ", Text.cite name]
  | .unexpectedWord word => Text.cat ["unexpected argument ", Text.cite word]
  | .missingWord name => Text.cat ["a value for ", Text.cite name, " is required"]
  | .unknownCommand word => Text.cat ["unrecognized subcommand ", Text.cite word]
  | .missingCommand => "a subcommand is required"

/-- Why a command line starts no command. -/
inductive Refusal where
  /-- It asks for help. -/
  | help
  | fault (fault : Fault)
  deriving DecidableEq

/-- What may stand at one level of a command line. -/
structure Grammar where
  options : List OptionSpec
  /-- Whether a word names a command, with which another level begins. -/
  isCommand : Text → Bool
  /-- What is wrong with another word, given the number of words before it. -/
  wordFault? : Nat → Text → Option Fault

/-! ## Reading the arguments

The first thing that is wrong or that asks for help decides.  A value that is an
argument of its own is looked at only when the next argument is read, and not if
that one is the name of a command. -/

/-- Options with their values, and words, in the order given. -/
structure Arguments where
  values : List (Text × Text)
  words : List Text

/-- A command line being read. -/
structure Reading where
  arguments : Arguments
  /-- An option that waits for its value. -/
  pending : Option OptionSpec
  /-- A value that has not been looked at and is not yet among the arguments. -/
  unchecked : Option (OptionSpec × Text)
  /-- Whether all that follows is words. -/
  onlyWords : Bool

namespace Reading

/-- Nothing has been read. -/
def start : Reading :=
  ⟨⟨[], []⟩, none, none, false⟩

/-- Note a word. -/
def addWord (grammar : Grammar) (word : Text) (reading : Reading) : Except Refusal Reading :=
  match grammar.wordFault? reading.arguments.words.length word with
  | some fault => .error (.fault fault)
  | none =>
      .ok
        { reading with
          arguments := { reading.arguments with words := reading.arguments.words ++ [word] } }

/-- Note the value of an option, to be looked at later. -/
def holdValue (spec : OptionSpec) (value : Text) (reading : Reading) : Reading :=
  { reading with pending := none, unchecked := some (spec, value) }

/-- Look at the last value.  An option may be given only once. -/
def settle (reading : Reading) : Except Refusal Reading :=
  match reading.unchecked with
  | none => .ok reading
  | some (spec, value) =>
      if (reading.arguments.values.lookup spec.name).isSome then
        .error (.fault (.repeatedOption spec.name))
      else if spec.admits value then
        .ok
          { reading with
            arguments :=
              { reading.arguments with
                values := reading.arguments.values ++ [(spec.name, value)] }
            unchecked := none }
      else
        .error (.fault (.invalidValue spec.name value))

/-- Note an option together with the value that is attached to it, if any. -/
def addOption (spec : OptionSpec) (attached : Option Text) (reading : Reading) :
    Except Refusal Reading :=
  match spec.arity, attached with
  | .flag, none => (reading.holdValue spec "true").settle
  | .flag, some _ => .error (.fault (.unwantedValue spec.name))
  | .value, none => .ok { reading with pending := some spec }
  | .attached missing, none => (reading.holdValue spec missing).settle
  | .value, some value | .attached _, some value => (reading.holdValue spec value).settle

end Reading

/-- Split an option at its first equals sign. -/
def splitAtEquals (text : Text) : Text × Option Text :=
  match text.dropWhile (· ≠ '=') with
  | [] => (text, none)
  | _ :: value => (text.takeWhile (· ≠ '='), some value)

/-- Read an option with a long name. -/
def readLong (specs : List OptionSpec) (text : Text) (reading : Reading) :
    Except Refusal Reading :=
  let (name, attached) := splitAtEquals text
  match specs.find? fun spec => spec.name = name with
  | some spec => reading.addOption spec attached
  | none =>
      if name = "help".toList then
        match attached with
        | none => .error .help
        | some _ => .error (.fault (.unwantedValue name))
      else
        .error (.fault (.unknownOption text))

/-- The value that follows a letter in the same argument. -/
def attachedValue? : Text → Option Text
  | [] => none
  | '=' :: value => some value
  | value => some value

/-- Read letters that are written together.  The first one that may have a value
takes the rest as its value. -/
def readLetters (specs : List OptionSpec) : List Char → Reading → Except Refusal Reading
  | [], reading => .ok reading
  | letter :: rest, reading =>
      match specs.find? fun spec => spec.letter = some letter with
      | some spec =>
          match spec.arity with
          | .flag => do readLetters specs rest (← reading.addOption spec none)
          | _ => reading.addOption spec (attachedValue? rest)
      | none =>
          if letter = 'h' then .error .help else .error (.fault (.unknownOption [letter]))

/-- Whether an argument is an option.  A dash alone is a word. -/
def isOption : Text → Bool
  | '-' :: _ :: _ => true
  | _ => false

/-- Read arguments up to the first word that names a command, and return what
comes from there on. -/
def readArguments (grammar : Grammar) :
    List Text → Reading → Except Refusal (Reading × List Text)
  | [], reading =>
      match reading.pending with
      | some spec => .error (.fault (.missingValue spec.name))
      | none => do pure (← reading.settle, [])
  | argument :: rest, reading =>
      if reading.onlyWords then do
        readArguments grammar rest (← reading.addWord grammar argument)
      else
        match reading.pending with
        | some spec =>
            if isOption argument then
              .error (.fault (.missingValue spec.name))
            else
              readArguments grammar rest (reading.holdValue spec argument)
        | none =>
            if grammar.isCommand argument then
              .ok (reading, argument :: rest)
            else do
              let settled ← reading.settle
              match argument with
              | ['-', '-'] => readArguments grammar rest { settled with onlyWords := true }
              | '-' :: '-' :: text =>
                  readArguments grammar rest (← readLong grammar.options text settled)
              | '-' :: letter :: letters =>
                  readArguments grammar rest
                    (← readLetters grammar.options (letter :: letters) settled)
              | word => readArguments grammar rest (← settled.addWord grammar word)

/-! ## Values -/

/-- The variables of the environment. -/
abbrev Environment := List (Text × Text)

/-- The name of a variable. -/
def variableName (ending : Text) : Text :=
  Text.cat ["PYRIGHT_IGNORE_", ending]

/-- The value of a variable, if it is set. -/
def Environment.read? (environment : Environment) (ending : Text) : Option Text :=
  environment.lookup (variableName ending)

/-- Where the value of an option comes from. -/
inductive Source where
  | environment
  | commandLine
  deriving DecidableEq

/-- A value with where it comes from. -/
structure Sourced (α : Type) where
  source : Source
  value : α

namespace Arguments

/-- What an option is set to.  The command line goes before the environment. -/
def setting? {α : Type} (arguments : Arguments) (environment : Environment)
    (option : TypedOption α) : Option (Sourced Text) :=
  match arguments.values.lookup option.name with
  | some value => some ⟨.commandLine, value⟩
  | none =>
      (environment.read? option.variableEnding).map fun value => ⟨.environment, value⟩

/-- The value of an option. -/
def get {α : Type} (arguments : Arguments) (environment : Environment)
    (option : TypedOption α) : Except Refusal (Option (Sourced α)) :=
  match arguments.setting? environment option with
  | none => .ok none
  | some ⟨source, text⟩ =>
      match option.parse text with
      | some value => .ok (some ⟨source, value⟩)
      | none => .error (.fault (.invalidValue option.name text))

/-- The value of an option, wherever it comes from. -/
def value? {α : Type} (arguments : Arguments) (environment : Environment)
    (option : TypedOption α) : Except Refusal (Option α) := do
  pure ((← arguments.get environment option).map Sourced.value)

end Arguments

end GoldenCheck.Program
