import GoldenCheck.Disk.Path

/-!
# Disk images

A disk image says what stands at which location, and which folder is the
current one.  A location is the list of names on the way down from the root, so
a file tree of any shape is a finite table.  The root itself is always a folder
and has no row of its own.

Links, permissions and devices are not part of the picture.
-/

namespace GoldenCheck

/-- The name of a file or folder. -/
abbrev Name := Bytes

/-- The names on the way from the root. -/
abbrev Location := List Name

namespace Disk

/-- What stands at a location. -/
inductive Entry where
  | folder
  | file (contents : Bytes)
  deriving DecidableEq

/-- Whether an entry is a folder. -/
def Entry.isFolder : Entry → Bool
  | .folder => true
  | .file _ => false

/-- The contents of a file. -/
def Entry.contents? : Entry → Option Bytes
  | .folder => none
  | .file contents => some contents

end Disk

/-- A table of locations and a current folder. -/
structure Disk where
  entries : List (Location × Disk.Entry)
  current : Location
  deriving DecidableEq

namespace Disk

/-- What stands at a location, if anything does. -/
def entry? (disk : Disk) (location : Location) : Option Entry :=
  if location.isEmpty then some .folder else disk.entries.lookup location

/-- The names directly inside a folder. -/
def namesIn (disk : Disk) (location : Location) : List Name :=
  disk.entries.filterMap fun (other, _) =>
    match other.getLast? with
    | some name => if other.dropLast = location then some name else none
    | none => none

/-- The order of locations: name by name, each by its bytes. -/
def compareLocations (first second : Location) : Ordering :=
  List.compareLex (fun name other => Ord.compare name other) first second

/-- Everything at any depth below a folder, in the order of locations.  The
locations are relative to the folder. -/
def below (disk : Disk) (location : Location) : List (Location × Entry) :=
  (disk.entries.filterMap fun (other, entry) =>
      match location.isPrefixOf? other with
      | some (name :: rest) => some (name :: rest, entry)
      | _ => none).mergeSort
    fun first second => compareLocations first.1 second.1 != .gt

/-- All files with their contents, in the order of locations. -/
def files (disk : Disk) : List (Location × Bytes) :=
  (disk.below []).filterMap fun (location, entry) =>
    entry.contents?.map fun contents => (location, contents)

/-! ## Changing an image -/

/-- Set what stands at a location.  A new row goes to the end of the table. -/
def put (disk : Disk) (location : Location) (entry : Entry) : Disk :=
  { disk with
    entries :=
      if (disk.entries.lookup location).isSome then
        disk.entries.map fun row => if row.1 = location then (location, entry) else row
      else
        disk.entries ++ [(location, entry)] }

/-- The locations on the way to a location, itself included, the root left
out. -/
def steps (location : Location) : List Location :=
  (List.range location.length).map fun index => location.take (index + 1)

/-- Make a folder and the folders above it where they are missing. -/
def makeFolder (disk : Disk) (location : Location) : Disk :=
  (steps location).foldl
    (fun disk step => if (disk.entry? step).isSome then disk else disk.put step .folder) disk

/-- Make a file and the folders above it. -/
def makeFile (disk : Disk) (location : Location) (contents : Bytes) : Disk :=
  (disk.makeFolder location.dropLast).put location (.file contents)

/-- Remove whatever stands at a location and below it. -/
def erase (disk : Disk) (location : Location) : Disk :=
  { disk with entries := disk.entries.filter fun row => !location.isPrefixOf row.1 }

/-- The files that differ between two images, with their later contents. -/
def changes (before after : Disk) : List (Location × Option Bytes) :=
  (after.files.filterMap fun (location, contents) =>
      if before.files.lookup location = some contents then none
      else some (location, some contents)) ++
    before.files.filterMap fun (location, _) =>
      if (after.files.lookup location).isSome then none else some (location, none)

end Disk

end GoldenCheck
