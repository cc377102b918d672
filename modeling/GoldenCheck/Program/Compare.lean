import GoldenCheck.Golden
import GoldenCheck.Program.Check

/-!
# Comparing with a golden file

A golden file that differs from the actual output is a problem, unless the
request is to replace it.
-/

namespace GoldenCheck.Program

/-- What is said when a golden file has been replaced. -/
def updatedNotice (path : Path) : Notice :=
  .say .replacing .info (Text.cat ["Updated golden file ", path.cite])

/-- What is said when the two agree. -/
def matchesNotice (path : Path) : Notice :=
  .say .comparing .info (Text.cat [path.cite, " matches its golden file"])

/-- The problem of a golden file that differs. -/
def mismatchProblem (request : CompareRequest) (mismatch : Diff.Mismatch) : Problem where
  path := request.expected
  line := mismatch.line
  kind := .goldenMismatch
  message := Text.cat [request.actual.cite, " differs, ", mismatch.message]

/-- Replace the golden file by the actual text. -/
def replaceGolden (disk : Disk) (request : CompareRequest) (actual : Text) : Outcome :=
  match Golden.update disk request.expected actual with
  | .error failure => .failed disk [] failure
  | .ok ⟨disk, changed⟩ =>
      .clean disk (if changed then [updatedNotice request.expected] else [])

/-- Compare a golden file that has been read with the actual text. -/
def compareGolden (disk : Disk) (mode : CompareMode) (request : CompareRequest)
    (golden : Fixture) (actual : Text) : Outcome :=
  match Diff.firstMismatch mode golden.render actual with
  | none => .clean disk [matchesNotice request.actual]
  | some mismatch =>
      if request.update then
        replaceGolden disk request actual
      else
        { result := .ok .problems
          output := []
          notices := [Notice.problem (mismatchProblem request mismatch)]
          disk := disk }

/-- Carry out a request to compare. -/
def CompareRequest.run (disk : Disk) (settings : Settings) (request : CompareRequest) :
    Outcome :=
  let settings := settings.override { compareMode := request.mode }
  match Golden.readText disk request.actual with
  | .error failure => .failed disk [] failure
  | .ok actual =>
      if request.update && !disk.isFile request.expected then
        replaceGolden disk request actual
      else
        match loadFixture disk settings.tool request.expected with
        | .error failure => .failed disk [] failure
        | .ok golden => compareGolden disk settings.compareMode request golden actual

end GoldenCheck.Program
