import GoldenCheck.Pairing
import GoldenCheck.Program.Outcome
import GoldenCheck.Program.Request

/-!
# Listing pairs

Print each pair as one line, and report expected files without a case or without
an input.
-/

namespace GoldenCheck.Program

/-- The line of a pair: case, input and expected file with tabs between them. -/
def pairLine (pair : Pair) : Text :=
  Text.join ['\t'] [pair.case, pair.input.display, pair.expected.display]

/-- What is said at the end. -/
def foundNotice (pairs problems : Nat) : Notice :=
  .say .pairing .info
    (Text.cat ["Found ", Text.count pairs "pair", ", ", Text.count problems "problem"])

/-- The settings that a request changes. -/
def PairsRequest.overrides (request : PairsRequest) : Settings.Overrides :=
  { expectedDir := request.expectedDir
    inputDir := request.inputDir
    expectedSuffix := request.expectedSuffix }

/-- Carry out a request to list pairs. -/
def PairsRequest.run (disk : Disk) (settings : Settings) (request : PairsRequest) :
    Outcome :=
  let settings := settings.override request.overrides
  match Pairing.discover disk settings.fullExpectedDir settings.fullInputDir
      settings.expectedSuffix with
  | .error failure => .failed disk [] failure
  | .ok pairing =>
      let problems := pairing.problems disk settings.expectedSuffix
      { result := .ok (.ofProblems problems)
        output := pairing.pairs.map pairLine
        notices := problems.map Notice.problem ++
          [foundNotice pairing.pairs.length problems.length]
        disk := disk }

end GoldenCheck.Program
