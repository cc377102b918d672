import GoldenCheck.Disk.Path
import GoldenCheck.Fixture.Line

/-!
# Path headers

A fixture may begin with a comment that repeats its own path, such as
`# test/expected/foo_quickfixed.py`.
-/

namespace GoldenCheck.Fixture

/-- A first line that names a file. -/
structure Header where
  path : Path
  /-- The line as written, without its ending. -/
  body : Text
  ending : Ending
  deriving DecidableEq

namespace Header

/-- Recognise a header: `#` and a single word that is the path of a Python
file. -/
def detect (body : Text) (ending : Ending) : Option Header :=
  match body with
  | '#' :: rest =>
      let word := Text.trim rest
      let path := Path.ofText word
      if word.isEmpty || word.any Text.isBlank || !path.isPython then
        none
      else
        some ⟨path, body, ending⟩
  | _ => none

/-- Whether the header may name a file.  Either path may be the longer one. -/
def names (header : Header) (path : Path) : Bool :=
  path.endsWith header.path || header.path.endsWith path

/-- The header line as it stands in the file. -/
def render (header : Header) : Text :=
  header.body ++ header.ending.text

end Header

end GoldenCheck.Fixture
