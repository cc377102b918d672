import GoldenCheck.Failure

/-!
# Golden files

A golden file is replaced as a whole.  If it already holds the text, it is left
alone.
-/

namespace GoldenCheck.Golden

/-- The text of a file, for a run that cannot go on without it. -/
def readText (disk : Disk) (path : Path) : Except Failure Text :=
  failWith (.reading path) (disk.readText path)

/-- Write a text to a file, for a run that cannot go on otherwise. -/
def writeText (disk : Disk) (path : Path) (text : Text) : Except Failure Disk :=
  failWith (.writing path) (disk.write path (Text.encode text))

/-- What an update did. -/
structure Update where
  disk : Disk
  changed : Bool

/-- Make a golden file hold a text.  A file that is missing is made. -/
def update (disk : Disk) (path : Path) (text : Text) : Except Failure Update := do
  let isCurrent ←
    if disk.isFile path then do pure ((← readText disk path) == text) else pure false
  if isCurrent then
    pure ⟨disk, false⟩
  else
    pure ⟨← writeText disk path text, true⟩

end GoldenCheck.Golden
