import GoldenCheck.Failure
import GoldenCheck.Program.Notice

/-!
# Outcomes

What a command leaves behind: its result, what it printed, what it said on the
way, and the disk.
-/

namespace GoldenCheck.Program

/-- How a completed command ends. -/
inductive Verdict where
  | clean
  | problems
  deriving DecidableEq

/-- The verdict on a list of problems. -/
def Verdict.ofProblems (problems : List Problem) : Verdict :=
  if problems.isEmpty then .clean else .problems

/-- What a command leaves behind. -/
structure Outcome where
  result : Except Failure Verdict
  /-- The printed lines. -/
  output : List Text
  notices : List Notice
  disk : Disk

namespace Outcome

/-- A command that could not be carried out. -/
def failed (disk : Disk) (notices : List Notice) (failure : Failure) : Outcome :=
  ⟨.error failure, [], notices, disk⟩

/-- A command that found nothing wrong. -/
def clean (disk : Disk) (notices : List Notice) : Outcome :=
  ⟨.ok .clean, [], notices, disk⟩

end Outcome

end GoldenCheck.Program
