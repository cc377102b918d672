import GoldenCheck.Rule

/-!
# Ignore comments

An ignore comment reads `# <tool>: ignore[<rule>, ...]`.  It is kept as it is
written: its tool in the case of the line, its rule list with whatever the
brackets hold.  The rule list is judged by the functions here and reported by
`GoldenCheck.Lint`.
-/

namespace GoldenCheck

/-- An ignore comment as it stands in a line. -/
structure Comment where
  /-- The tool, spelled as in the line. -/
  tool : Text
  /-- What stands between the brackets. -/
  listed : Text
  /-- The whole comment, from `#` to `]`. -/
  raw : Text
  /-- The number of bytes in front of the comment. -/
  start : Nat
  deriving DecidableEq

namespace Comment

/-- The number of bytes up to the end of the comment. -/
def stop (comment : Comment) : Nat :=
  comment.start + Text.byteLength comment.raw

/-- The entries of a bracketed list: the trimmed pieces between commas, and
none at all if the brackets hold only white space. -/
def entries (listed : Text) : List Text :=
  if Text.isBlankText listed then
    []
  else
    (Text.pieces ',' listed).map Text.trim

/-- The entries of the rule list.  Blank entries are kept. -/
def codes (comment : Comment) : List Text :=
  entries comment.listed

/-- Whether the brackets hold no rule, only blanks and commas. -/
def isEmpty (comment : Comment) : Bool :=
  comment.codes.all List.isEmpty

/-- The rule names of the list.  The first entry that is none is the error; a
list without entries is an error too. -/
def ruleNames (comment : Comment) : Except RuleError (List RuleName) :=
  match comment.codes.mapM RuleName.parse with
  | .error fault => .error fault
  | .ok [] => .error .empty
  | .ok names => .ok names

/-- Walk through names, remembering those seen and those seen again, each in
the order in which it was first added. -/
def repeatsAux : List Text → List Text → List Text → List Text
  | _, again, [] => again
  | seen, again, name :: rest =>
      if seen.contains name then
        repeatsAux seen (if again.contains name then again else again ++ [name]) rest
      else
        repeatsAux (seen ++ [name]) again rest

/-- The names that occur more than once, in the order of their second
occurrences. -/
def repeats (names : List Text) : List Text :=
  repeatsAux [] [] names

/-- The entries that occur more than once.  Blank entries do not count. -/
def duplicates (comment : Comment) : List Text :=
  repeats (comment.codes.filter fun code => !code.isEmpty)

/-- Whether neighbours are in alphabetical order. -/
def inOrder : List Text → Bool
  | first :: second :: rest => namesInOrder first second && inOrder (second :: rest)
  | _ => true

/-- Whether the entries are in alphabetical order. -/
def isSorted (comment : Comment) : Bool :=
  inOrder comment.codes

/-- The spelling `# <tool>: ignore[a, b]` of a tool and a list of entries. -/
def spell (tool : Text) (codes : List Text) : Text :=
  Text.cat ["# ", tool, ": ignore[", Text.commaList codes, "]"]

/-- The comment in its usual spelling. -/
def canonical (comment : Comment) : Text :=
  spell comment.tool comment.codes

/-- Whether the comment has its usual spelling. -/
def isCanonical (comment : Comment) : Bool :=
  comment.raw == comment.canonical

end Comment

end GoldenCheck
