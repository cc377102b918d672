import GoldenCheck.Pairing
import GoldenCheck.Program.Outcome
import GoldenCheck.Program.Request
import GoldenCheck.Selection

/-!
# Checking fixtures

Select fixtures, lint each of them, and report all problems in order.
-/

namespace GoldenCheck.Program

namespace CheckRequest

/-- The settings that a request changes. -/
def overrides (request : CheckRequest) : Settings.Overrides :=
  { header := request.header
    ruleOrder := request.ruleOrder
    strictSpacing := request.strictSpacing }

/-- The patterns of a request, or else the expected folder. -/
def patternsUnder (request : CheckRequest) (settings : Settings) : List Text :=
  if request.patterns.isEmpty then [settings.fullExpectedDir.display] else request.patterns

/-- The number of threads of a request on a machine with so many cores. -/
def threadCount (request : CheckRequest) (cores : Nat) : Nat :=
  if request.threads = 0 then cores else request.threads

end CheckRequest

/-- What is said before the fixtures are read. -/
def threadNotice (threads : Nat) : Notice :=
  .say .threads .debug (Text.cat ["Checking fixtures with ", Text.decimal threads, " threads"])

/-- What is said about a fixture that has been linted. -/
def fixtureNotice (fixture : Fixture) : Notice :=
  .say .checking .debug
    (Text.cat [fixture.path.display, ": ", Text.count fixture.comments.length "suppression"])

/-- Read a fixture. -/
def loadFixture (disk : Disk) (tool : Text) (path : Path) : Except Failure Fixture := do
  pure (Fixture.parse path tool (← failWith (.reading path) (disk.readText path)))

/-- Lint fixtures one after the other, up to one that cannot be read. -/
def lintFiles (disk : Disk) (settings : Settings) :
    List Path → List Notice × Except Failure (List Problem)
  | [] => ([], .ok [])
  | path :: rest =>
      match loadFixture disk settings.tool path with
      | .error failure => ([], .error failure)
      | .ok fixture =>
          let (notices, found) := lintFiles disk settings rest
          (fixtureNotice fixture :: notices,
            found.map fun problems => Lint.problems settings.policy fixture ++ problems)

/-- The problems of the pairing that the settings describe. -/
def pairingProblems (disk : Disk) (settings : Settings) : Except Failure (List Problem) := do
  let pairing ← Pairing.discover disk settings.fullExpectedDir settings.fullInputDir
    settings.expectedSuffix
  pure (pairing.problems disk settings.expectedSuffix)

/-- All problems in order: those of the fixtures, and those of the pairing if it
is asked for. -/
def allProblems (disk : Disk) (settings : Settings) (checkPairs : Bool)
    (found : Except Failure (List Problem)) : Except Failure (List Problem) := do
  let problems ← found
  let pairing ← if checkPairs then pairingProblems disk settings else pure []
  pure (Problem.sort (problems ++ pairing))

/-- Report problems: to a file if one is given, and as notices otherwise. -/
def reportProblems (disk : Disk) (request : CheckRequest) (problems : List Problem) :
    Except Failure (Disk × List Notice) :=
  match request.output with
  | some path => do
      let contents := Text.encode (Problem.report request.format problems)
      pure (← failWith (.reporting path) (disk.write path contents), [])
  | none => .ok (disk, problems.map Notice.problem)

/-- The counts of the most frequent kinds, if they are asked for. -/
def countNotices (request : CheckRequest) (problems : List Problem) : List Notice :=
  match request.countLimit with
  | some limit => (Problem.topKinds problems limit).map fun count =>
      .always (Problem.tallyLine count)
  | none => []

/-- Check the selected fixtures. -/
def checkFiles (disk : Disk) (cores : Nat) (settings : Settings) (request : CheckRequest)
    (files : List Path) : Outcome :=
  let (linted, found) := lintFiles disk settings files
  let notices := threadNotice (request.threadCount cores) :: linted
  match allProblems disk settings request.checkPairs found with
  | .error failure => .failed disk notices failure
  | .ok problems =>
      match reportProblems disk request problems with
      | .error failure => .failed disk notices failure
      | .ok (disk, shown) =>
          { result := .ok (.ofProblems problems)
            output := []
            notices := notices ++ shown ++ countNotices request problems ++
              [.checked files.length problems.length]
            disk := disk }

/-- Carry out a request to check. -/
def CheckRequest.run (disk : Disk) (cores : Nat) (settings : Settings)
    (request : CheckRequest) : Outcome :=
  let settings := settings.override request.overrides
  match Selection.files disk (request.patternsUnder settings) with
  | .error failure => .failed disk [] failure
  | .ok files => checkFiles disk cores settings request files

end GoldenCheck.Program
