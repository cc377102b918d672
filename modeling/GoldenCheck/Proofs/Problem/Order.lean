import GoldenCheck.Problem.Basic
import GoldenCheck.Proofs.Disk.Path
import Mathlib.Data.Char

/-!
# The order of problems

Problems are ordered by path, line, kind and message.  Two problems tie only if
they agree in all of these, and then they differ at most in how their path is
written.
-/

namespace GoldenCheck.Problem

theorem Kind.rank_inj {first second : Kind} : first.rank = second.rank ↔ first = second := by
  cases first <;> cases second <;> decide

instance : Std.TransCmp compare :=
  have := transCmp_on Path.compare path
  inferInstanceAs (Std.TransCmp
    (compareLex (fun first second => Path.compare first.path second.path)
      (compareLex (compareOn line)
        (compareLex (compareOn fun problem => problem.kind.rank) (compareOn message)))))

/-- Problems tie if they name the same path, however it is written, and agree
otherwise. -/
theorem compare_eq_eq_iff {first second : Problem} :
    compare first second = .eq ↔
      first.path.components = second.path.components ∧ first.line = second.line ∧
        first.kind = second.kind ∧ first.message = second.message := by
  rw [compare, Ordering.then_eq_eq, Ordering.then_eq_eq, Ordering.then_eq_eq,
    Path.compare_eq_eq_iff, Nat.compare_eq_eq, Nat.compare_eq_eq, Kind.rank_inj,
    Std.LawfulEqOrd.compare_eq_iff_eq]

end GoldenCheck.Problem
