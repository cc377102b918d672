import GoldenCheck.Problem.Basic

/-!
# Notices

What a run says while it works.  A notice has a topic and a level, and is shown
only if the run was asked to show that level of the topic.
-/

namespace GoldenCheck

/-- How important a notice is. -/
inductive Level where
  | error
  | warn
  | info
  | debug
  | trace
  deriving DecidableEq

namespace Level

/-- The name of a level in a shown notice, right-aligned to five characters. -/
def label : Level → Text
  | .error => "ERROR"
  | .warn => " WARN"
  | .info => " INFO"
  | .debug => "DEBUG"
  | .trace => "TRACE"

/-- The place of a level, the most important first. -/
def rank : Level → Nat
  | .error => 1
  | .warn => 2
  | .info => 3
  | .debug => 4
  | .trace => 5

end Level

/-- The least important level that is shown, or `none` if nothing is. -/
abbrev Threshold := Option Level

namespace Threshold

/-- Whether a level is shown. -/
def shows (threshold : Threshold) (level : Level) : Bool :=
  match threshold with
  | some last => level.rank ≤ last.rank
  | none => false

/-- The words for thresholds, each with its number. -/
def words : List (Text × Nat × Threshold) :=
  [("off", 0, none), ("error", 1, some .error), ("warn", 2, some .warn),
    ("info", 3, some .info), ("debug", 4, some .debug), ("trace", 5, some .trace)]

/-- The threshold that a word names in upper or lower case, or a numeral by its
number. -/
def ofWord? (word : Text) : Option Threshold :=
  (words.find? fun (name, number, _) =>
    word.map Char.toLower == name || Text.word64? word == some number).map fun row => row.2.2

end Threshold

/-- What a notice is about. -/
inductive Topic where
  | settings
  | threads
  | checking
  | comparing
  | pairing
  | problems
  | replacing
  deriving DecidableEq

/-- The full name of a topic, by which a run can be asked for its notices. -/
def Topic.name : Topic → Text
  | .settings => "pyright_ignore::config"
  | .threads => "pyright_ignore::util::rayon"
  | .checking => "pyright_ignore::commands::check"
  | .comparing => "pyright_ignore::commands::compare"
  | .pairing => "pyright_ignore::commands::pairs"
  | .problems => "pyright_ignore::error::error"
  | .replacing => "pyright_ignore::golden::update"

/-- One thing that a run says. -/
inductive Notice where
  /-- A text about a topic at a level. -/
  | say (topic : Topic) (level : Level) (text : Text)
  /-- The end of a check, with the number of fixtures and of problems.  The time
  that it took is known only when the notice is shown. -/
  | checked (fixtures problems : Nat)
  /-- A line that is shown at every threshold. -/
  | always (text : Text)
  deriving DecidableEq

namespace Notice

/-- The notice of a problem. -/
def problem (problem : Problem) : Notice :=
  .say .problems .error problem.display

/-- The text of the end of a check. -/
def checkedText (elapsed : Text) (fixtures problems : Nat) : Text :=
  Text.cat ["Checked ", Text.count fixtures "fixture", " in ", elapsed, "s, ",
    Text.count problems "problem"]

/-- A time in seconds with two places, given in milliseconds. -/
def seconds (milliseconds : Nat) : Text :=
  let hundredths := (milliseconds + 5) / 10
  Text.cat [Text.decimal (hundredths / 100), ".", Text.decimal (hundredths / 10 % 10),
    Text.decimal (hundredths % 10)]

/-- The controls of seven bits that a terminal takes for commands: bell,
backspace, form feed, escape and delete. -/
def commandControls : List Nat :=
  [0x07, 0x08, 0x0c, 0x1b, 0x7f]

/-- A character in a shown notice.  One that a terminal takes for a command is
spelled out. -/
def showChar (c : Char) : Text :=
  if c.toNat ∈ commandControls then
    Text.cat ["\\x", (Text.hexadecimal c.toNat).leftpad 2 '0']
  else if 0x80 ≤ c.toNat ∧ c.toNat ≤ 0x9f then
    Text.cat ["\\u\x7b", Text.hexadecimal c.toNat, "\x7d"]
  else
    [c]

/-- The line of a text at a level. -/
def line (level : Level) (text : Text) : Text :=
  Text.cat [level.label, " ", text.flatMap showChar, "\n"]

/-- What is shown of a notice, given the threshold of each topic. -/
def render (threshold : Topic → Threshold) (elapsed : Text) : Notice → Text
  | .say topic level text => if (threshold topic).shows level then line level text else []
  | .checked fixtures problems =>
      if (threshold .checking).shows .info then
        line .info (checkedText elapsed fixtures problems)
      else
        []
  | .always text => text ++ ['\n']

end Notice

end GoldenCheck
