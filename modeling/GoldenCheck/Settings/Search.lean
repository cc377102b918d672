import GoldenCheck.Failure

/-!
# Finding settings

Settings are read from a file that is given, or else from the nearest file of a
fixed name in a folder and the folders above it.  Without any such file the
defaults hold under the folder where the search began.
-/

namespace GoldenCheck

/-- The nearest file of a name, in a folder or above it. -/
def Disk.searchUpward (disk : Disk) (start name : Path) : Option Path :=
  (start.ancestors.map fun folder => folder.join name).find? disk.isFile

namespace Settings

/-- The name of a settings file. -/
def fileName : Path :=
  Path.ofText "pyright_ignore.toml"

/-- Read a settings file.  Its folder becomes the root. -/
def load (disk : Disk) (path : Path) : Except Failure Settings := do
  let text ← failWith (.reading path) (disk.readText path)
  failWith (.settings path) (parse (path.parent?.getD (Path.ofText ".")) text)

/-- Where settings come from. -/
inductive Source where
  /-- A file that was asked for. -/
  | given (path : Path)
  /-- The nearest settings file. -/
  | found (path : Path)
  /-- The defaults, under the folder where the search began. -/
  | none (start : Path)

/-- Where the settings for a folder come from. -/
def source (disk : Disk) (given : Option Path) (start : Path) : Source :=
  match given with
  | some path => .given path
  | none =>
      match disk.searchUpward start fileName with
      | some path => .found path
      | none => .none start

/-- The settings from a source. -/
def Source.settings (disk : Disk) : Source → Except Failure Settings
  | .given path | .found path => load disk path
  | .none start => .ok (defaults start)

end Settings

end GoldenCheck
