import GoldenCheck.Text.Utf8

/-!
# Paths

A path is a sequence of bytes, kept as it is written.  What it means is its list
of components: repeated and trailing slashes and inner `.` say nothing, a
leading `/` or `.` and every `..` do.  Two paths are the same path when their
components agree, and paths are ordered by their components.
-/

namespace GoldenCheck

/-- A path as it is written. -/
structure Path where
  bytes : Bytes
  deriving DecidableEq

namespace Path

/-- The byte that separates components. -/
def slash : UInt8 := 0x2f

/-- The byte that separates a stem from its extension. -/
def dot : UInt8 := 0x2e

/-- The path that a text spells. -/
def ofText (text : Text) : Path :=
  ⟨Text.encode text⟩

/-- A path as messages show it. -/
def display (path : Path) : Text :=
  Text.decodeLossy path.bytes

/-- A path between backticks, as messages cite it. -/
def cite (path : Path) : Text :=
  Text.cite path.display

/-! ## Components -/

/-- One meaningful part of a path. -/
inductive Component where
  | root
  | here
  | up
  | name (bytes : Bytes)
  deriving DecidableEq

/-- The place of a component in the order of components: the root, `.`, `..`,
and then names by their bytes. -/
def Component.key : Component → Nat × Bytes
  | .root => (0, [])
  | .here => (1, [])
  | .up => (2, [])
  | .name bytes => (3, bytes)

/-- The order of components. -/
def Component.compare (first second : Component) : Ordering :=
  (Ord.compare first.key.1 second.key.1).then (Ord.compare first.key.2 second.key.2)

/-- Whether a part between slashes says nothing: it is empty or `.`. -/
def isIdle (part : Bytes) : Bool :=
  part.isEmpty || part == [dot]

/-- The component that a part between slashes stands for. -/
def partComponent? (part : Bytes) : Option Component :=
  if isIdle part then none
  else if part = [dot, dot] then some .up
  else some (.name part)

/-- The start of a path that is kept apart from its parts: a leading slash, or a
leading `.`.  The rest follows. -/
def splitStart (path : Path) : Bytes × Bytes :=
  match path.bytes with
  | [] => ([], [])
  | first :: rest =>
      if first = slash then
        ([slash], rest)
      else if first = dot ∧ (rest.isEmpty ∨ rest.head? = some slash) then
        ([dot], rest)
      else
        ([], first :: rest)

/-- The component of the start of a path. -/
def startComponents (start : Bytes) : List Component :=
  if start = [slash] then [.root]
  else if start = [dot] then [.here]
  else []

/-- The components of a path. -/
def components (path : Path) : List Component :=
  startComponents path.splitStart.1 ++
    (Text.pieces slash path.splitStart.2).filterMap partComponent?

/-- Whether two paths are the same path, however they are written. -/
def same (first second : Path) : Bool :=
  first.components == second.components

/-- The order of paths by their components. -/
def compare (first second : Path) : Ordering :=
  List.compareLex Component.compare first.components second.components

/-- Whether the components of `suffix` end the components of the path. -/
def endsWith (path suffix : Path) : Bool :=
  suffix.components.isSuffixOf path.components

/-- Whether a path starts at the root. -/
def isAbsolute (path : Path) : Bool :=
  path.bytes.head? == some slash

/-! ## Names -/

/-- The last component, if it is a name. -/
def fileName? (path : Path) : Option Bytes :=
  match path.components.getLast? with
  | some (.name bytes) => some bytes
  | _ => none

/-- Split a file name at its last dot.  A name whose only dot is in front has no
extension. -/
def splitName (name : Bytes) : Bytes × Option Bytes :=
  let extension := (name.reverse.takeWhile (· ≠ dot)).reverse
  let stem := (name.reverse.dropWhile (· ≠ dot)).reverse.dropLast
  if name.contains dot && !stem.isEmpty then (stem, some extension) else (name, none)

/-- The file name without its extension. -/
def stem? (path : Path) : Option Bytes :=
  path.fileName?.map fun name => (splitName name).1

/-- What follows the last dot of the file name. -/
def extension? (path : Path) : Option Bytes :=
  path.fileName?.bind fun name => (splitName name).2

/-- Whether a path names a Python file: its extension is `py` or `pyi`. -/
def isPython (path : Path) : Bool :=
  path.extension? == some (Text.encode "py") || path.extension? == some (Text.encode "pyi")

/-! ## Climbing and joining -/

/-- The parts that remain after each removal of a last component, given the
parts in reverse. -/
def climb : List Bytes → List (List Bytes)
  | [] => []
  | part :: rest =>
      if isIdle part then climb rest else rest.dropWhile isIdle :: climb rest

/-- The path with a given start and given parts in reverse. -/
def rebuild (start : Bytes) (reversed : List Bytes) : Path :=
  ⟨start ++ Text.join [slash] reversed.reverse⟩

/-- A path and the paths above it, nearest first. -/
def ancestors (path : Path) : List Path :=
  let (start, body) := path.splitStart
  path :: (climb (Text.pieces slash body).reverse).map (rebuild start) ++
    (if start = [dot] then [⟨[]⟩] else [])

/-- The path above. -/
def parent? (path : Path) : Option Path :=
  path.ancestors[1]?

/-- A path taken relative to a folder.  An absolute path stands for itself. -/
def join (folder path : Path) : Path :=
  if path.isAbsolute then
    path
  else if folder.bytes.isEmpty || folder.bytes.getLast? == some slash then
    ⟨folder.bytes ++ path.bytes⟩
  else
    ⟨folder.bytes ++ slash :: path.bytes⟩

/-- The path that leads from a folder down along names. -/
def joinAll (folder : Path) (names : List Bytes) : Path :=
  names.foldl (fun path name => path.join ⟨name⟩) folder

end Path

end GoldenCheck
