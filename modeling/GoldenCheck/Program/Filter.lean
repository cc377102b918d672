import GoldenCheck.Program.Notice
import GoldenCheck.Regex.Basic

/-!
# Filters

A filter is a list of directives, each of which sets the threshold of some
topics.  The most specific directive that applies to a topic counts, and of two
that are equally specific the later one.

A directive is written `level`, `topic` or `topic=level`, where `topic` is the
start of the full name of a topic.  Before the equals sign may also stand a scope
in brackets, with a field in braces, which may have a number or a regular
expression as its value.  No notice is made inside a scope, and the only field of
a notice is its message, so no value is ever compared with anything.
-/

namespace GoldenCheck

/-- A field that a directive asks for. -/
structure FieldDemand where
  name : Text
  /-- Whether the field must have a certain value. -/
  valued : Bool
  deriving DecidableEq

/-- One part of a filter. -/
structure Directive where
  /-- The start of the names of the topics, or `none` for all topics. -/
  topic : Option Text
  /-- The scope in which the directive applies. -/
  scope : Option Text
  field : Option FieldDemand
  threshold : Threshold
  deriving DecidableEq

/-- What is wrong with a directive. -/
inductive DirectiveFault where
  | malformed
  | unknownLevel
  /-- The value of a field is a pattern with a fault. -/
  | invalidField (cause : Regex.Fault)
  deriving DecidableEq

/-- What is said about a directive. -/
def DirectiveFault.message : DirectiveFault → Text
  | .malformed => "invalid filter directive"
  | .unknownLevel =>
      Text.cat ["error parsing level filter: expected one of ",
        Text.commaList (Threshold.words.map fun (word, _, _) => Text.cat ["\"", word, "\""]),
        ", or a number 0-5"]
  | .invalidField cause => Text.cat ["invalid field filter: ", cause.message]

/-! ## Reading -/

namespace Directive

/-- Whether a text is a numeral without a sign and an exponent: digits, with or
without a point among them or at one end. -/
def isPlainNumeral (text : Text) : Bool :=
  let fraction := text.dropWhile Char.isDigit
  text.any Char.isDigit &&
    (fraction.isEmpty || (fraction.head? == some '.' && fraction.tail.all Char.isDigit))

/-- Whether a text is a whole number with or without a sign. -/
def isExponent (text : Text) : Bool :=
  let digits := if text.head? == some '+' || text.head? == some '-' then text.tail else text
  !digits.isEmpty && digits.all Char.isDigit

/-- Whether a text is a number without a sign. -/
def isNumber (text : Text) : Bool :=
  let lower := text.map Char.toLower
  let exponent := lower.dropWhile (· ≠ 'e')
  (["inf", "infinity", "nan"] : List Text).contains lower ||
    (isPlainNumeral (lower.takeWhile (· ≠ 'e')) &&
      (exponent.isEmpty || isExponent exponent.tail))

/-- What is wrong with the value of a field.  A number may have a plus sign, which
no pattern begins with; every other number is a pattern too. -/
def valueFault? (value : Text) : Option Regex.Fault :=
  match value with
  | '+' :: number => if isNumber number then none else some .malformed
  | _ => Regex.fault? value

/-- What a field in braces demands: `name` or `name=value`.  A second equals sign
ends the value. -/
def readField (text : Text) : Except DirectiveFault FieldDemand :=
  let name := text.takeWhile (· ≠ '=')
  match text.dropWhile (· ≠ '=') with
  | [] => .ok ⟨name, false⟩
  | _ :: value =>
      match valueFault? (value.takeWhile (· ≠ '=')) with
      | none => .ok ⟨name, true⟩
      | some cause => .error (.invalidField cause)

/-- The threshold after an equals sign.  Nothing there means everything. -/
def readThreshold (word : Text) : Except DirectiveFault Threshold :=
  if word.isEmpty then
    .ok (some .trace)
  else
    match Threshold.ofWord? word with
    | some threshold => .ok threshold
    | none => .error .unknownLevel

/-- The end of a written directive from a place on.  Places are counted in bytes. -/
def endFrom (written : Text) (first : Nat) : Except DirectiveFault Text :=
  match Text.cutAtByte? first written with
  | some (_, rest) => .ok rest
  | none => .error .malformed

/-- The part of a written directive from one place up to another. -/
def part (written : Text) (first last : Nat) : Except DirectiveFault Text := do
  match Text.cutAtByte? (last - first) (← endFrom written first) with
  | some (text, _) => .ok text
  | none => .error .malformed

/-- Read what follows a scope: an equals sign and a threshold, or nothing. -/
def readAfterScope (written : Text) (place : Nat) : Text → Except DirectiveFault Threshold
  | [] => .ok (some .trace)
  | '=' :: _ => do readThreshold (← endFrom written (place + 1))
  | _ => .error .malformed

/-- Read what follows the opening brace of a field. -/
def readFieldPart (written : Text) (topic scope : Option Text) (place : Nat) (rest : Text) :
    Except DirectiveFault Directive :=
  let last := place + Text.byteLength (rest.takeWhile (· ≠ '\x7d'))
  match rest.dropWhile (· ≠ '\x7d') with
  | _ :: after => do
      let text ← part written place last
      if text.isEmpty then
        .error .malformed
      else
        let field ← readField text
        match after with
        | ']' :: rest =>
            pure ⟨topic, scope, some field, ← readAfterScope written (last + 2) rest⟩
        | _ => .error .malformed
  | [] => .error .malformed

/-- Read what follows the opening bracket of a scope. -/
def readScope (written : Text) (topic : Option Text) (place : Nat) (rest : Text) :
    Except DirectiveFault Directive :=
  let inScope := fun c => c ≠ ']' && c ≠ '\x7b'
  let last := place + Text.byteLength (rest.takeWhile inScope)
  match rest.dropWhile inScope with
  | ']' :: rest => do
      let name ← part written place last
      pure ⟨topic, some name, none, ← readAfterScope written (last + 1) rest⟩
  | '\x7b' :: rest => do
      let name ← part written place last
      readFieldPart written topic (if name.isEmpty then none else some name) (last + 1) rest
  | _ => .error .malformed

/-- Read a directive that begins with a level or a topic. -/
def readPlain (written rest : Text) : Except DirectiveFault Directive :=
  let inTopic := fun c => c ≠ '=' && c ≠ '['
  let last := Text.byteLength (rest.takeWhile inTopic)
  match rest.dropWhile inTopic with
  | '=' :: _ => do
      let topic ← part written 0 last
      pure ⟨some topic, none, none, ← readThreshold (← endFrom written (last + 1))⟩
  | '[' :: rest => do
      let topic ← part written 0 last
      readScope written (some topic) (last + 1) rest
  | _ =>
      match Threshold.ofWord? written with
      | some threshold => .ok ⟨none, none, none, threshold⟩
      | none => .ok ⟨some written, none, none, some .trace⟩

/-- Whether a topic may begin with a character. -/
def startsTopic (c : Char) : Bool :=
  c == '-' || c == ':' || c == '_' || Text.isAlphanumeric c

/-- Read a directive.  Its shape is that of the text without the blanks around it,
but its parts are taken at the same places of the text as it is written.  A place
that falls inside a character there is no place for a part to begin or end. -/
def parse (written : Text) : Except DirectiveFault Directive :=
  match Text.trim written with
  | [] => .error .malformed
  | '[' :: rest => readScope written none 1 rest
  | c :: rest => if startsTopic c then readPlain written (c :: rest) else .error .malformed

end Directive

/-! ## Applying -/

namespace Directive

/-- Whether a directive sets the threshold of a topic. -/
def applies (directive : Directive) (topic : Topic) : Bool :=
  directive.scope.isNone &&
    (match directive.topic with
      | none => true
      | some start => start.isPrefixOf topic.name) &&
    (match directive.field with
      | none => true
      | some demand => !demand.valued && demand.name == "message")

/-- How specific a directive is: by the length of its topic, and then by whether
it asks for a field. -/
def weight (directive : Directive) : Nat :=
  2 * (match directive.topic with
    | none => 0
    | some start => start.length + 1) +
  (if directive.field.isSome then 1 else 0)

/-- The directive that counts of one that counted so far and a later one. -/
def stronger (best : Option Directive) (directive : Directive) : Option Directive :=
  match best with
  | none => some directive
  | some earlier => if earlier.weight ≤ directive.weight then some directive else some earlier

end Directive

/-- Which notices are shown. -/
structure Filter where
  directives : List Directive
  /-- The parts of a setting that are no directives, with what is wrong. -/
  ignored : List (Text × DirectiveFault)

namespace Filter

/-- The filter that shows nothing. -/
def silent : Filter :=
  ⟨[], []⟩

/-- The filter with one threshold for all topics. -/
def uniform (threshold : Threshold) : Filter :=
  ⟨[⟨none, none, none, threshold⟩], []⟩

/-- The threshold of a topic.  Without a directive for it nothing is shown. -/
def threshold (filter : Filter) (topic : Topic) : Threshold :=
  match (filter.directives.filter fun directive => directive.applies topic).foldl
      Directive.stronger none with
  | some directive => directive.threshold
  | none => none

/-- The filter that a setting describes by directives with commas between them.
Without any directive, errors are shown. -/
def ofSetting (setting : Text) : Filter :=
  let parts := (Text.pieces ',' setting).filter fun written => !written.isEmpty
  let directives := parts.filterMap fun written => (Directive.parse written).toOption
  let ignored := parts.filterMap fun written =>
    match Directive.parse written with
    | .ok _ => none
    | .error fault => some (written, fault)
  if directives.isEmpty then
    ⟨(uniform (some .error)).directives, ignored⟩
  else
    ⟨directives, ignored⟩

/-- The filter of a run: what the setting says, or else how talkative the run
should be. -/
def choose (setting : Option Text) (verbose : Bool) : Filter :=
  match setting with
  | some text => ofSetting text
  | none => uniform (if verbose then some .debug else some .info)

/-- What is said about the parts of a setting that are no directives. -/
def complaints (filter : Filter) : List Notice :=
  filter.ignored.map fun (written, fault) =>
    .always (Text.cat ["ignoring ", Text.cite written, ": ", fault.message])

end Filter

end GoldenCheck
