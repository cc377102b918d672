import GoldenCheck.Fixture.Header

/-!
# Fixtures

A fixture is a file of expected output.  Reading one loses nothing: rendering it
gives back the text that was read.
-/

namespace GoldenCheck

/-- A fixture with its path. -/
structure Fixture where
  path : Path
  header : Option Fixture.Header
  /-- The lines after the header. -/
  lines : List Fixture.Line
  deriving DecidableEq

namespace Fixture

/-- Split a header off the front of a list of lines. -/
def splitHeader : List (Text × Ending) → Option Header × List (Text × Ending)
  | [] => (none, [])
  | (body, ending) :: rest =>
      match Header.detect body ending with
      | some header => (some header, rest)
      | none => (none, (body, ending) :: rest)

/-- Read a fixture with comments for a given tool. -/
def parse (path : Path) (tool text : Text) : Fixture :=
  let (header, rest) := splitHeader (splitLines text)
  { path := path
    header := header
    lines := rest.map fun (body, ending) => Line.parse tool body ending }

/-- The number of the first line after the header, counting from one. -/
def firstNumber (fixture : Fixture) : Nat :=
  if fixture.header.isSome then 2 else 1

/-- The lines after the header with their numbers in the file. -/
def numberedLines (fixture : Fixture) : List (Nat × Line) :=
  (fixture.lines.zipIdx fixture.firstNumber).map fun (line, number) => (number, line)

/-- The lines that carry a comment, with their numbers and comments. -/
def comments (fixture : Fixture) : List (Nat × Line × Comment) :=
  fixture.numberedLines.filterMap fun (number, line) =>
    line.comment.map fun comment => (number, line, comment)

/-- Whether some line after the header has exactly this body. -/
def containsLine (fixture : Fixture) (body : Text) : Bool :=
  fixture.lines.any fun line => line.body == body

/-- The header line as it stands in the file, or nothing. -/
def renderHeader (fixture : Fixture) : Text :=
  match fixture.header with
  | some header => header.render
  | none => []

/-- The text of a fixture. -/
def render (fixture : Fixture) : Text :=
  fixture.renderHeader ++ (fixture.lines.map Line.render).flatten

end Fixture

end GoldenCheck
