import GoldenCheck.Program.ArgumentFile
import GoldenCheck.Program.Usage
import GoldenCheck.Settings.Search

/-!
# What a run may touch

A run works on an image of a part of the disk.  This module says which part: the
working folder, the folder of the settings, and whatever the arguments, the
environment and the settings point to.
-/

namespace GoldenCheck.Program

/-- Whether a part of a path is a pattern rather than a name. -/
def isWild (name : Bytes) : Bool :=
  name.any fun byte => (Text.encode "*?[").contains byte

/-- Follow the components of a path from a location, up to the first name at
which to stop. -/
def follow (stopsAt : Bytes → Bool) : Location → List Path.Component → Location
  | location, [] => location
  | _, .root :: rest => follow stopsAt [] rest
  | location, .here :: rest => follow stopsAt location rest
  | location, .up :: rest => follow stopsAt location.dropLast rest
  | location, .name bytes :: rest =>
      if stopsAt bytes then location else follow stopsAt (location ++ [bytes]) rest

/-- The location that a path spells from the root. -/
def locationOf (path : Path) : Location :=
  follow (fun _ => false) [] path.components

/-- The texts in an argument that may be paths: the argument itself, what follows
its first equals sign, and what follows a leading `@`. -/
def pathTexts (argument : Text) : List Text :=
  match splitAtEquals argument, argument with
  | (_, some value), _ => [argument, value]
  | _, '@' :: name => [name]
  | _, _ => [argument]

/-- The locations that the arguments and the environment point to. -/
def namedLocations (current : Location) (environment : Environment) (arguments : List Text) :
    List Location :=
  (arguments.flatMap pathTexts ++ environment.map Prod.snd).map fun text =>
    follow isWild current (Path.ofText text).components

/-- The locations where settings are looked for, nearest first. -/
def settingsLocations (current : Location) : List Location :=
  (Disk.pathOf current).ancestors.map fun folder =>
    locationOf (folder.join Settings.fileName)

/-- The folders that the settings of a request name, as locations. -/
def settingsFolders (disk : Disk) (request : Request) : List Location :=
  match (Settings.source disk request.settingsFile disk.currentPath).settings disk with
  | .error _ => []
  | .ok settings =>
      [settings.fullExpectedDir, settings.fullInputDir].map fun folder =>
        follow (fun _ => false) disk.current folder.components

/-- The locations that show only once argument files and settings have been
read. -/
def furtherLocations (disk : Disk) (environment : Environment) (arguments : List Text) :
    List Location :=
  match expandArguments disk arguments with
  | .error _ => []
  | .ok expanded =>
      namedLocations disk.current environment expanded ++
        match Request.parse environment expanded with
        | .error _ => []
        | .ok request => settingsFolders disk request

/-- The locations that are not below others of the list, each once. -/
def outermost (locations : List Location) : List Location :=
  (locations.filter fun location =>
    !locations.any fun other => other ≠ location && other.isPrefixOf location).eraseDups

/-- The variables that a run looks at. -/
def variableEndings : List Text :=
  logVariable :: (generalOptions ++ commandChoices.flatMap fun choice => choice.2.options).map
    OptionSpec.variableEnding

end GoldenCheck.Program
