import GoldenCheck.Program.Reach
import GoldenCheck.Program.Session

/-!
# The program on a real disk

An image of the part of the disk that a run may touch is taken, the run is
carried out on the image, and the files that it changed are written back.
-/

namespace GoldenCheck.Main

/-- A text as a string. -/
def string (text : Text) : String :=
  String.ofList text

/-- The path of a location as a string. -/
def locationString (location : Location) : String :=
  string (Disk.pathOf location).display

/-- A file, or a folder with all that is below it, as rows of an image. -/
partial def rowsBelow (location : Location) : IO (List (Location × Disk.Entry)) := do
  let place := (← IO.currentDir) / locationString location
  if ← place.isDir then
    let entries ← place.readDir
    let below ← entries.toList.mapM fun entry =>
      rowsBelow (location ++ [Text.encode entry.fileName.toList])
    return (location, .folder) :: below.flatten
  else if ← place.pathExists then
    return [(location, .file (← IO.FS.readBinFile place).toList)]
  else
    return []

/-- Whether something stands at a location. -/
def isThere (location : Location) : IO Bool := do
  ((← IO.currentDir) / locationString location).pathExists

/-- The variables of the environment that a run looks at. -/
def readEnvironment : IO Program.Environment := do
  let mut found := []
  for ending in Program.variableEndings do
    let name := Program.variableName ending
    if let some value ← IO.getEnv (string name) then
      found := found ++ [(name, value.toList)]
  return found

/-- An image of all that is at or below some locations. -/
def imageOf (current : Location) (roots : List Location) : IO Disk := do
  let rows ← roots.mapM rowsBelow
  let mut disk : Disk := ⟨rows.flatten.filter fun row => !row.1.isEmpty, current⟩
  for root in roots do
    if ← isThere root.dropLast then
      disk := disk.makeFolder root.dropLast
  return disk

/-- An image for a run.  Argument files and settings may point further than a
first image reaches. -/
def takeImage (current : Location) (environment : Program.Environment)
    (arguments : List Text) : IO Disk := do
  let settings ← (Program.settingsLocations current).findM? isThere
  let roots := Program.outermost <|
    current :: (settings.toList.map List.dropLast) ++
      Program.namedLocations current environment arguments
  let disk ← imageOf current roots
  let further := Program.outermost (roots ++ Program.furtherLocations disk environment arguments)
  if further = roots then return disk else imageOf current further

/-- Write the files that differ between two images. -/
def writeBack (before after : Disk) : IO Unit := do
  for (location, contents) in Disk.changes before after do
    match contents with
    | some bytes => IO.FS.writeBinFile (locationString location) (ByteArray.mk bytes.toArray)
    | none => pure ()

end GoldenCheck.Main

open GoldenCheck in
/-- Run the program. -/
def main (arguments : List String) : IO UInt32 := do
  let started ← IO.monoMsNow
  let texts := arguments.map String.toList
  let environment ← Main.readEnvironment
  let here := (← IO.currentDir).toString.toList
  let current := Program.locationOf (Path.ofText here)
  let disk ← Main.takeImage current environment texts
  let session := Program.run disk environment 1 texts
  Main.writeBack disk session.disk
  let elapsed := Notice.seconds ((← IO.monoMsNow) - started)
  IO.print (Main.string session.output)
  IO.eprint (Main.string (session.commentary elapsed))
  return session.ending.status.toUInt32
