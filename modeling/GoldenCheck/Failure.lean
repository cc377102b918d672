import GoldenCheck.Glob.Walk
import GoldenCheck.Settings.Reader

/-!
# Failures

A run that cannot be carried out ends with one failure.  A failure says what was
being done and what went wrong.
-/

namespace GoldenCheck

/-- Why a run cannot be carried out. -/
inductive Failure where
  /-- A file cannot be read. -/
  | reading (path : Path) (cause : FileError)
  /-- A file cannot be written. -/
  | writing (path : Path) (cause : FileError)
  /-- A folder cannot be listed. -/
  | listing (path : Path) (cause : FileError)
  /-- A report cannot be written. -/
  | reporting (path : Path) (cause : FileError)
  /-- A settings file is wrong. -/
  | settings (path : Path) (cause : SettingsError)
  /-- A pattern is malformed. -/
  | pattern (written : Text) (cause : Glob.PatternError)
  /-- A pattern cannot be expanded. -/
  | expansion (written : Text) (cause : Glob.ReadError)
  /-- A pattern stands for no fixture. -/
  | noMatch (written : Text)
  /-- An argument file cannot be read. -/
  | argumentFile (path : Path) (cause : FileError)
  /-- Argument files refer to each other in a circle. -/
  | argumentCircle (path : Path)

namespace Failure

/-- What was being done with an argument file.  A folder can be opened, and so can
a file that is not a text; neither can be read. -/
def argumentStep : FileError → Text
  | .notFound | .notFolder | .tooLong | .zeroByte => "failed to open file "
  | .isFolder | .notText => "failed to read from file "

/-- What is said about a failure. -/
def message : Failure → Text
  | .reading path cause =>
      Text.cat ["When reading fixture ", path.cite, ": ", cause.message]
  | .writing path cause =>
      Text.cat ["When writing fixture ", path.cite, ": ", cause.message]
  | .listing path cause =>
      Text.cat ["When reading directory ", path.cite, ": ", cause.message]
  | .reporting path cause =>
      Text.cat ["While writing problems to ", path.cite, ": ", cause.message]
  | .settings path cause =>
      Text.cat ["When parsing config file ", path.cite, ": TOML parse error: ", cause.message]
  | .pattern written cause =>
      Text.cat ["When resolving pattern ", Text.cite written, ": ", cause.message]
  | .expansion written cause =>
      Text.cat ["When resolving pattern ", Text.cite written, ": ", cause.message]
  | .noMatch written =>
      Text.cat ["No fixtures matched pattern ", Text.cite written]
  | .argumentFile path cause =>
      Text.cat ["When parsing @arg files: ", argumentStep cause, path.cite, ": ", cause.message]
  | .argumentCircle path =>
      Text.cat ["When parsing @arg files: ", path.cite, " leads back to itself"]

end Failure

/-- Turn the cause of an error into a failure. -/
def failWith {ε α : Type} (failure : ε → Failure) : Except ε α → Except Failure α :=
  Except.mapError failure

end GoldenCheck
