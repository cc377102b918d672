import GoldenCheck.Comment.Find

/-!
# Lines

A line keeps everything that was read: the text in front of the ignore comment,
the comment, the text after it, and the way the line ends.
-/

namespace GoldenCheck

namespace Fixture

/-- How a line ends. -/
inductive Ending where
  | lf
  | crlf
  /-- The last line of a text without a final newline. -/
  | none
  deriving DecidableEq

/-- The characters of an ending. -/
def Ending.text : Ending → Text
  | .lf => ['\n']
  | .crlf => ['\r', '\n']
  | .none => []

/-- Split a segment into its body and its ending. -/
def splitSegment (segment : Text) : Text × Ending :=
  match ['\r', '\n'].isSuffixOf? segment with
  | some body => (body, .crlf)
  | none =>
      match ['\n'].isSuffixOf? segment with
      | some body => (body, .lf)
      | none => (segment, .none)

/-- The lines of a text, each with its ending.  An empty text has no lines, and
a final newline starts none. -/
def splitLines (text : Text) : List (Text × Ending) :=
  (Text.segments text).map splitSegment

/-- One line of a fixture. -/
structure Line where
  /-- What stands in front of the comment; the whole line if there is none. -/
  code : Text
  comment : Option Comment
  /-- What stands after the comment. -/
  trailing : Text
  ending : Ending
  deriving DecidableEq

namespace Line

/-- Read a line with comments for a given tool. -/
def parse (tool body : Text) (ending : Ending) : Line :=
  match Comment.locate tool body with
  | some (before, reading) =>
      { code := before
        comment := some (Comment.ofReading before reading)
        trailing := reading.rest
        ending := ending }
  | none =>
      { code := body
        comment := none
        trailing := []
        ending := ending }

/-- The code without the white space at its end. -/
def statement (line : Line) : Text :=
  Text.trimEnd line.code

/-- The white space between the statement and the comment. -/
def gap (line : Line) : Text :=
  Text.blankEnd line.code

/-- The comment as written, or nothing. -/
def rawComment (line : Line) : Text :=
  match line.comment with
  | some comment => comment.raw
  | none => []

/-- The line without its ending. -/
def body (line : Line) : Text :=
  Text.cat [line.code, line.rawComment, line.trailing]

/-- The line as it stands in the file. -/
def render (line : Line) : Text :=
  line.body ++ line.ending.text

end Line

end Fixture

end GoldenCheck
