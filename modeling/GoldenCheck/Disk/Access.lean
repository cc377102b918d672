import GoldenCheck.Disk.Basic

/-!
# Reaching files by path

A path is followed part by part from the root or from the current folder.  Every
part but the last must lead to a folder, and so must the last one if a slash or
a dot comes after it.  Paths and names have a greatest length.
-/

namespace GoldenCheck

/-- Why a file cannot be used. -/
inductive FileError where
  | notFound
  | notFolder
  | isFolder
  | notText
  | tooLong
  | zeroByte
  deriving DecidableEq

/-- What is said about a file that cannot be used. -/
def FileError.message : FileError → Text
  | .notFound => "No such file or directory (os error 2)"
  | .notFolder => "Not a directory (os error 20)"
  | .isFolder => "Is a directory (os error 21)"
  | .notText => "stream did not contain valid UTF-8"
  | .tooLong => "File name too long (os error 36)"
  | .zeroByte => "file name contained an unexpected NUL byte"

namespace Disk

/-- The part that leads to the folder above. -/
def upPart : Bytes :=
  [Path.dot, Path.dot]

/-- The greatest number of bytes in a path. -/
def longestPath : Nat := 4095

/-- The greatest number of bytes in a name. -/
def longestName : Nat := 255

/-- A path that can be followed at all is not empty, has no zero byte and is not
too long. -/
def requireUsable (path : Path) : Except FileError Unit :=
  if path.bytes.contains 0 then .error .zeroByte
  else if path.bytes.isEmpty then .error .notFound
  else if longestPath < path.bytes.length then .error .tooLong
  else .ok ()

/-- A name that is looked up in a folder must not be too long. -/
def requireName (name : Name) : Except FileError Unit :=
  if longestName < name.length then .error .tooLong else .ok ()

/-- A location must be a folder. -/
def requireFolder (disk : Disk) (location : Location) : Except FileError Unit :=
  match disk.entry? location with
  | some .folder => .ok ()
  | some (.file _) => .error .notFolder
  | none => .error .notFound

/-- Follow the parts of a path from a location.  The last location need not
exist. -/
def walk (disk : Disk) : Location → List Bytes → Except FileError Location
  | location, [] => .ok location
  | location, part :: rest => do
      disk.requireFolder location
      if Path.isIdle part then
        walk disk location rest
      else if part = upPart then
        walk disk location.dropLast rest
      else do
        requireName part
        walk disk (location ++ [part]) rest

/-- Where the walk along a path begins. -/
def startOf (disk : Disk) (path : Path) : Location :=
  if path.isAbsolute then [] else disk.current

/-- The location of a path and what stands there. -/
def resolve (disk : Disk) (path : Path) : Except FileError (Location × Entry) := do
  requireUsable path
  let location ← disk.walk (disk.startOf path) (Text.pieces Path.slash path.bytes)
  match disk.entry? location with
  | some entry => .ok (location, entry)
  | none => .error .notFound

/-- What a path leads to, if anything. -/
def find? (disk : Disk) (path : Path) : Option Entry :=
  match disk.resolve path with
  | .ok (_, entry) => some entry
  | .error _ => none

/-- Whether a path leads to something. -/
def holds (disk : Disk) (path : Path) : Bool :=
  (disk.find? path).isSome

/-- Whether a path leads to a folder. -/
def isFolder (disk : Disk) (path : Path) : Bool :=
  match disk.find? path with
  | some entry => entry.isFolder
  | none => false

/-- Whether a path leads to a file. -/
def isFile (disk : Disk) (path : Path) : Bool :=
  match disk.find? path with
  | some entry => !entry.isFolder
  | none => false

/-- The bytes of a file. -/
def read (disk : Disk) (path : Path) : Except FileError Bytes := do
  match ← disk.resolve path with
  | (_, .file contents) => .ok contents
  | (_, .folder) => .error .isFolder

/-- The text of a file. -/
def readText (disk : Disk) (path : Path) : Except FileError Text := do
  match Text.decode? (← disk.read path) with
  | some text => .ok text
  | none => .error .notText

/-- The paths of what stands directly inside a folder. -/
def list (disk : Disk) (path : Path) : Except FileError (List Path) := do
  let (location, _) ← disk.resolve path
  disk.requireFolder location
  pure ((disk.namesIn location).map fun name => path.join ⟨name⟩)

/-- The location of a file that is to be written.  It may be new, but its folder
may not, and a folder is never written over. -/
def writeTarget (disk : Disk) (path : Path) : Except FileError Location := do
  requireUsable path
  let parts := (Text.pieces Path.slash path.bytes).reverse
  match parts.dropWhile List.isEmpty with
  | [] => .error .isFolder
  | last :: before => do
      let folder ← disk.walk (disk.startOf path) before.reverse
      disk.requireFolder folder
      if last = [Path.dot] ∨ last = upPart ∨ parts.head? = some [] then
        .error .isFolder
      else do
        requireName last
        match disk.entry? (folder ++ [last]) with
        | some .folder => .error .isFolder
        | _ => .ok (folder ++ [last])

/-- Write a file. -/
def write (disk : Disk) (path : Path) (contents : Bytes) : Except FileError Disk := do
  let location ← disk.writeTarget path
  pure (disk.put location (.file contents))

/-- The path of a location. -/
def pathOf (location : Location) : Path :=
  ⟨Path.slash :: Text.join [Path.slash] location⟩

/-- The path of the current folder. -/
def currentPath (disk : Disk) : Path :=
  pathOf disk.current

end Disk

end GoldenCheck
