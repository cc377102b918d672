import GoldenCheck.Failure

/-!
# Pairing expected files with inputs

An expected file is named for its case: the case, a suffix, and the extension.
Its input is the file of the same case and extension in another folder.
-/

namespace GoldenCheck

/-- An expected file and the input that it belongs to. -/
structure Pair where
  case : Text
  input : Path
  expected : Path
  deriving DecidableEq

namespace Pair

/-- The case of an expected file: its stem without the suffix.  A case is never
empty. -/
def case? (suffix : Text) (expected : Path) : Option Text := do
  let stem ← Text.decode? (← expected.stem?)
  let case ← suffix.isSuffixOf? stem
  if case.isEmpty then none else some case

/-- The extension of the input of an expected file. -/
def inputExtension (expected : Path) : Text :=
  ((expected.extension?).bind Text.decode?).getD "py"

/-- The pair of an expected file, given the folder of the inputs. -/
def ofExpected? (inputDir : Path) (suffix : Text) (expected : Path) : Option Pair :=
  (case? suffix expected).map fun case =>
    { case := case
      input := inputDir.join (Path.ofText (Text.cat [case, ".", inputExtension expected]))
      expected := expected }

end Pair

/-- The Python files of a folder, divided by whether their names have a case. -/
structure Pairing where
  pairs : List Pair
  unpaired : List Path

namespace Pairing

/-- The Python files directly inside a folder, in ascending order. -/
def pythonFilesIn (disk : Disk) (folder : Path) : Except FileError (List Path) := do
  let found := (← disk.list folder).filter fun path => disk.isFile path && path.isPython
  pure (found.mergeSort fun first second => Path.compare first second != .gt)

/-- Pair the Python files directly inside a folder with their inputs. -/
def discover (disk : Disk) (expectedDir inputDir : Path) (suffix : Text) :
    Except Failure Pairing := do
  let files ← failWith (.listing expectedDir) (pythonFilesIn disk expectedDir)
  let pair? := Pair.ofExpected? inputDir suffix
  pure
    { pairs := files.filterMap pair?
      unpaired := files.filter fun path => (pair? path).isNone }

/-- The problem of an expected file without a case. -/
def unpairedProblem (suffix : Text) (path : Path) : Problem where
  path := path
  line := 1
  kind := .unpairedFixture
  message := Text.cat ["Expected fixture name does not end in ", Text.cite suffix]

/-- The problem of a pair without an input. -/
def missingProblem (pair : Pair) : Problem where
  path := pair.expected
  line := 1
  kind := .missingInput
  message := Text.cat ["No input file ", pair.input.cite]

/-- The problems of a pairing: expected files without a case, and then pairs
whose input is not a file. -/
def problems (disk : Disk) (suffix : Text) (pairing : Pairing) : List Problem :=
  pairing.unpaired.map (unpairedProblem suffix) ++
    (pairing.pairs.filter fun pair => !disk.isFile pair.input).map missingProblem

end Pairing

end GoldenCheck
