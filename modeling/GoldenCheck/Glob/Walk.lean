import GoldenCheck.Disk.Access
import GoldenCheck.Glob.Pattern

/-!
# Expanding patterns

A pattern is read component by component and expanded against a disk image.  A
component without wildcards is followed as it stands, so `.` and `..` work.  A
component with wildcards is matched against the names in the folder, in
ascending order.  `**` matches every folder at any depth below, but not the
folder itself.  The expansion fails at a folder that has to be read and whose path
is too long.
-/

namespace GoldenCheck.Glob

/-- A pattern ready to be expanded. -/
structure Plan where
  /-- The folder where the expansion begins. -/
  start : Path
  /-- The tokens of the components, one list each. -/
  components : List (List Token)
  /-- Whether only folders match: the pattern ends in a slash. -/
  foldersOnly : Bool

/-- The pieces of a text between slashes.  A final slash ends the last piece and
starts none. -/
def splitComponents (text : Text) : List Text :=
  match (Text.pieces '/' text).reverse with
  | [] :: rest => rest.reverse
  | all => all.reverse

/-- Merge neighbouring `**`. -/
def mergeFolders : List (List Token) → List (List Token)
  | first :: second :: rest =>
      if first = [.anyFolders] ∧ second = [.anyFolders] then
        mergeFolders (second :: rest)
      else
        first :: mergeFolders (second :: rest)
  | components => components

/-- Read a pattern: the whole of it must be well formed, and so must each of its
components. -/
def Plan.parse (pattern : Text) : Except PatternError Plan := do
  let _ ← readPattern pattern
  let (start, body) := match pattern with
    | '/' :: rest => ("/".toList, rest)
    | _ => (".".toList, pattern)
  let components ← (splitComponents body).mapM readPattern
  pure
    { start := Path.ofText start
      components := mergeFolders (if body.isEmpty then [[]] else components)
      foldersOnly := pattern.getLast? == some '/' }

/-- The path one step down.  The current folder is left unnamed. -/
def stepDown (path step : Path) : Path :=
  if path.same (Path.ofText ".") then step else path.join step

/-- Whether a component matches the name of a file. -/
def matchesBytes (component : List Token) (name : Name) : Bool :=
  match Text.decode? name with
  | some text => matchesName component text
  | none => false

/-- The special names that a component matches: `..` and `.`, for a component
that begins with a dot. -/
def specialSteps (component : List Token) : List Path :=
  if component.head? = some (.char '.') then
    ([".." , "."] : List Text).filterMap fun name =>
      if matchesName component name then some (Path.ofText name) else none
  else
    []

/-- A folder that cannot be read. -/
structure ReadError where
  path : Path
  cause : FileError

/-- What is said about a folder that cannot be read. -/
def ReadError.message (error : ReadError) : Text :=
  Text.cat ["attempting to read ", error.path.cite, " resulted in an error: ",
    error.cause.message]

/-- A path that an expansion has come to.  Of what is found in a folder, it is known
whether it is a folder, even if its path is too long to be followed. -/
structure Place where
  path : Path
  isFolder : Bool

/-- The place to which a path leads. -/
def Place.ofPath (disk : Disk) (path : Path) : Place :=
  ⟨path, disk.isFolder path⟩

/-- A path reached by the last component. -/
def reached (foldersOnly : Bool) (place : Place) : List Path :=
  if foldersOnly && !place.isFolder then [] else [place.path]

/-- Open a folder in order to read it. -/
def openFolder (disk : Disk) (path : Path) : Except ReadError Location :=
  match disk.resolve path with
  | .ok (location, _) => .ok location
  | .error cause => .error ⟨path, cause⟩

/-- After a match at a folder, what is in the folder comes next, so it is read. -/
def thenRead (disk : Disk) (place : Place) (found : List Path) : Except ReadError (List Path) :=
  if place.isFolder then (openFolder disk place.path).map fun _ => found else .ok found

/-- The names in a folder in ascending order. -/
def sortedNames (disk : Disk) (location : Location) : List Name :=
  (disk.namesIn location).mergeSort fun first second => Ord.compare first second != .gt

/-- The place of a name in a folder. -/
def placeIn (disk : Disk) (path : Path) (location : Location) (name : Name) : Place :=
  ⟨stepDown path ⟨name⟩, (disk.entry? (location ++ [name])).any (·.isFolder)⟩

/-- The place of a location below a folder. -/
def placeBelow (path : Path) (below : Location) (entry : Disk.Entry) : Place :=
  ⟨below.foldl (fun path name => stepDown path ⟨name⟩) path, entry.isFolder⟩

/-- Expand components from a place. -/
def expand (disk : Disk) (foldersOnly : Bool) :
    List (List Token) → Place → Except ReadError (List Path)
  | [], place => .ok (reached foldersOnly place)
  | component :: rest, place =>
      match literal? component with
      | some text =>
          let next := stepDown place.path (Path.ofText text)
          let follows :=
            if text = ['.'] ∨ text = ['.', '.'] then place.isFolder else disk.holds next
          if follows then expand disk foldersOnly rest (.ofPath disk next) else .ok []
      | none =>
          if !place.isFolder then
            .ok []
          else do
            let location ← openFolder disk place.path
            if component = [.anyFolders] then
              let found ← (disk.below location).mapM fun (below, entry) =>
                let child := placeBelow place.path below entry
                let matched := match rest with
                  | [] => .ok (if child.isFolder then [child.path] else [])
                  | next :: after =>
                      if (below.getLast?.map (matchesBytes next)).getD false &&
                          (after.isEmpty || child.isFolder) then
                        expand disk foldersOnly after child
                      else
                        .ok []
                matched >>= thenRead disk child
              pure found.flatten
            else
              let special ← (specialSteps component).mapM fun step =>
                expand disk foldersOnly rest (.ofPath disk (place.path.join step))
              let found ← (sortedNames disk location).mapM fun name =>
                let child := placeIn disk place.path location name
                if matchesBytes component name && (rest.isEmpty || child.isFolder) then
                  expand disk foldersOnly rest child
                else
                  .ok []
              pure (special ++ found).flatten

/-- The paths that a pattern stands for. -/
def paths (disk : Disk) (plan : Plan) : Except ReadError (List Path) :=
  expand disk plan.foldersOnly plan.components (.ofPath disk plan.start)

end GoldenCheck.Glob
