import GoldenCheck.Comment.Basic
import GoldenCheck.Text.CaseFold

/-!
# Finding ignore comments

A comment for a tool is `#`, white space, the tool without regard to case, `:`,
white space, the word `ignore` without regard to case, `[`, a list without `]`
and newline, and `]`.  The search takes the comment that starts first.

The tool may itself begin with white space.  White space in front of it is
therefore read greedily and given back one character at a time; the colon and
the word after it leave a single way to divide a comment that starts at a given
`#`.
-/

namespace GoldenCheck.Comment

/-! ## Reading at a given place -/

/-- Read white space, as much as possible, and then what `read` reads.  The
white space taken is returned with the result. -/
def afterBlanks {α : Type} (read : Text → Option α) : Text → Option (Text × α)
  | [] => (read []).map fun result => ([], result)
  | c :: rest =>
      if Text.isBlank c then
        match afterBlanks read rest with
        | some (blanks, result) => some (c :: blanks, result)
        | none => (read (c :: rest)).map fun result => ([], result)
      else
        (read (c :: rest)).map fun result => ([], result)

/-- Split off the front of a text that equals a word up to case.  The front is
returned as written, with the rest of the text. -/
def readFolded : Text → Text → Option (Text × Text)
  | [], text => some ([], text)
  | _ :: _, [] => none
  | letter :: word, c :: text =>
      if Text.sameFold letter c then
        (readFolded word text).map fun (front, rest) => (c :: front, rest)
      else
        none

/-- Drop one given character from the front of a text. -/
def readChar (expected : Char) : Text → Option Text
  | [] => none
  | c :: rest => if c = expected then some rest else none

/-- Read a list up to the first `]`, which is dropped.  The list stays on its
line. -/
def readListed : Text → Option (Text × Text)
  | [] => none
  | c :: rest =>
      if c = ']' then some ([], rest)
      else if c = '\n' then none
      else (readListed rest).map fun (listed, after) => (c :: listed, after)

/-- The word after the tool. -/
def ignoreWord : Text :=
  "ignore"

/-- A comment taken apart, with the text after it. -/
structure Reading where
  /-- White space before the tool. -/
  toolGap : Text
  /-- The tool as written. -/
  tool : Text
  /-- White space before the word. -/
  wordGap : Text
  /-- The word `ignore` as written. -/
  word : Text
  /-- What the brackets hold. -/
  listed : Text
  /-- The text after the comment. -/
  rest : Text
  deriving DecidableEq

/-- The characters of a comment, without the text after it. -/
def Reading.raw (reading : Reading) : Text :=
  Text.cat ["#", reading.toolGap, reading.tool, ":", reading.wordGap, reading.word, "[",
    reading.listed, "]"]

/-- Read the word `ignore` and its bracketed list. -/
def readIgnore (text : Text) : Option (Text × Text × Text) := do
  let (word, text) ← readFolded ignoreWord text
  let text ← readChar '[' text
  let (listed, rest) ← readListed text
  pure (word, listed, rest)

/-- Read the tool and all that follows it in a comment. -/
def readTool (tool text : Text) : Option (Text × Text × Text × Text × Text) := do
  let (written, text) ← readFolded tool text
  let text ← readChar ':' text
  let (wordGap, word, listed, rest) ← afterBlanks readIgnore text
  pure (written, wordGap, word, listed, rest)

/-- Read a comment that starts at the front of a text. -/
def read? (tool text : Text) : Option Reading := do
  let text ← readChar '#' text
  let (toolGap, written, wordGap, word, listed, rest) ← afterBlanks (readTool tool) text
  pure ⟨toolGap, written, wordGap, word, listed, rest⟩

/-! ## Searching -/

/-- The first comment of a text, with the text in front of it. -/
def locate (tool : Text) : Text → Option (Text × Reading)
  | [] => none
  | c :: rest =>
      match read? tool (c :: rest) with
      | some reading => some ([], reading)
      | none => (locate tool rest).map fun (before, reading) => (c :: before, reading)

/-- The comment that a reading stands for, given the text in front of it. -/
def ofReading (before : Text) (reading : Reading) : Comment where
  tool := reading.tool
  listed := reading.listed
  raw := reading.raw
  start := Text.byteLength before

/-- The first ignore comment for a tool in a line. -/
def find (tool line : Text) : Option Comment :=
  (locate tool line).map fun (before, reading) => ofReading before reading

end GoldenCheck.Comment
