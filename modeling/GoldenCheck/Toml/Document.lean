import GoldenCheck.Toml.Number

/-!
# Reading documents

A document is a sequence of lines: keyed values, headers of tables, comments and
blank lines.  Values nest to a bounded depth, which is also the measure by which
reading them ends.
-/

namespace GoldenCheck.Toml

/-- The least depth of values, and the least length of a path of keys, that is
refused. -/
def nestingLimit : Nat := 80

namespace Scan

/-! ## Keys -/

/-- Whether a character may stand in a key without quotes. -/
def isKeyChar (c : Char) : Bool :=
  c.isAlphanum || c == '_' || c == '-'

/-- Read one key. -/
def key : Scan Text := do
  match ← peek with
  | some '\x22' => lineString doubleQuote
  | some '\x27' => lineString singleQuote
  | _ => do
      let first ← oneOf isKeyChar
      pure (first :: (← many isKeyChar))

/-- One round of a path of keys: a key among blanks, and a dot if more follow. -/
def keyRound : Scan (Round Text) := do
  blanks
  let found ← key
  blanks
  pure ⟨[found], !(← accept '.')⟩

/-- Read keys with dots between them. -/
def keyPath : Scan (List Text) := do
  let path ← collect keyRound
  if path.length < nestingLimit then pure path else failure

/-! ## Values -/

/-- Read a value that holds no others. -/
def scalar : Scan Item := do
  match ← peek with
  | some '\x22' => do pure (.string (← quoted doubleQuote))
  | some '\x27' => do pure (.string (← quoted singleQuote))
  | some 't' => do word "true"; pure (.boolean true)
  | some 'f' => do word "false"; pure (.boolean false)
  | _ => number

/-- One round of an array: an element among blanks, newlines and comments, and a
comma if more may follow. -/
def elementRound (value : Scan Item) : Scan (Round Item) := do
  filler
  if ← accept ']' then
    pure ⟨[], true⟩
  else
    let item ← value
    filler
    if ← accept ',' then
      pure ⟨[item], false⟩
    else
      char ']'
      pure ⟨[item], true⟩

/-- Read an array, whose elements are read by `value`. -/
def array (value : Scan Item) : Scan Item := do
  char '['
  pure (.array (← collect (elementRound value)))

/-- Read a path of keys, an equals sign and a value. -/
def keyedValue (value : Scan Item) : Scan (List Text × Item) := do
  let path ← keyPath
  char '='
  blanks
  pure (path, ← value)

/-- One round of an inline table: a keyed value, and a comma if another one
follows. -/
def pairRound (value : Scan Item) : Scan (Round (List Text × Item)) := do
  let pair ← keyedValue value
  blanks
  if ← accept ',' then
    pure ⟨[pair], false⟩
  else
    char '\x7d'
    pure ⟨[pair], true⟩

/-- Read an inline table, whose values are read by `value`. -/
def inlineTable (value : Scan Item) : Scan Item := do
  char '\x7b'
  blanks
  if ← accept '\x7d' then
    pure (.inlineTable .explicit [])
  else
    let pairs ← collect (pairRound value)
    match pairs.foldlM (fun entries pair => addInline pair.1 pair.2 entries) [] with
    | some entries => pure (.inlineTable .explicit entries)
    | none => failure

/-- Read a value in which arrays and inline tables nest to at most a depth. -/
def value : Nat → Scan Item
  | 0 => scalar
  | depth + 1 => do
      match ← peek with
      | some '[' => array (value depth)
      | some '\x7b' => inlineTable (value depth)
      | _ => scalar

/-! ## Lines -/

/-- What a line of a document says. -/
inductive Statement where
  | assign (path : List Text) (item : Item)
  | beginTable (path : List Text)
  | beginElement (path : List Text)

/-- Read a header. -/
def header : Scan Statement := fun text =>
  if List.isPrefixOf "[[".toList text then
    (do word "[["; let path ← keyPath; word "]]"; pure (.beginElement path) : Scan Statement) text
  else
    (do char '['; let path ← keyPath; char ']'; pure (.beginTable path) : Scan Statement) text

/-- Read one line of a document, or find that nothing is left. -/
def statementRound : Scan (Round Statement) := do
  blanks
  match ← peek with
  | none => pure ⟨[], true⟩
  | some '#' => do comment; lineEnd; pure ⟨[], false⟩
  | some '\n' | some '\r' => do newline; pure ⟨[], false⟩
  | some '[' => do
      let statement ← header
      trailing
      pure ⟨[statement], false⟩
  | some _ => do
      let (path, item) ← keyedValue (value (nestingLimit - 1))
      trailing
      pure ⟨[.assign path item], false⟩

/-- Read all lines of a document, after a byte order mark if there is one. -/
def statements : Scan (List Statement) := do
  let _ ← accept '\ufeff'
  collect statementRound

end Scan

/-- Carry out one line of a document. -/
def Draft.apply (draft : Draft) : Scan.Statement → Option Draft
  | .assign path item => draft.add path item
  | .beginTable path => draft.beginTable path
  | .beginElement path => draft.beginElement path

/-- Read a document.  A text that breaks the grammar, gives a key twice, or
extends what may not be extended, is none. -/
def document? (text : Text) : Option Entries := do
  let (statements, _) ← Scan.statements text
  let draft ← statements.foldlM Draft.apply Draft.empty
  draft.finish

end GoldenCheck.Toml
