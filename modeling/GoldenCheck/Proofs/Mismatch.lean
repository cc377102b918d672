import GoldenCheck.Diff
import GoldenCheck.Proofs.Text.Basic

/-!
# Where two texts depart

Equality is decided on whole texts and a mismatch is looked for line by line.
The two agree because a text is determined by its lines, and a mismatch stands
right behind the longest common beginning of the two lists of lines.
-/

namespace GoldenCheck.Diff

/-! ## Common beginnings -/

/-- The longest list with which two lists begin. -/
structure LongestCommonPrefix {α : Type} (first second common : List α) : Prop where
  of_first : common <+: first
  of_second : common <+: second
  longest : ∀ other, other <+: first → other <+: second → other.length ≤ common.length

/-- Lists that differ at once have nothing in common. -/
theorem LongestCommonPrefix.nil {α : Type} {first second : List α}
    (differ : first.head? ≠ second.head?) : LongestCommonPrefix first second [] where
  of_first := List.nil_prefix
  of_second := List.nil_prefix
  longest other ofFirst ofSecond := by
    cases other with
    | nil => exact Nat.le_refl 0
    | cons entry other =>
        obtain ⟨firstRest, rfl⟩ := ofFirst
        obtain ⟨secondRest, rfl⟩ := ofSecond
        exact absurd rfl differ

theorem LongestCommonPrefix.cons {α : Type} {first second common : List α} (entry : α)
    (inner : LongestCommonPrefix first second common) :
    LongestCommonPrefix (entry :: first) (entry :: second) (entry :: common) where
  of_first := List.cons_prefix_cons.mpr ⟨rfl, inner.of_first⟩
  of_second := List.cons_prefix_cons.mpr ⟨rfl, inner.of_second⟩
  longest other ofFirst ofSecond := by
    cases other with
    | nil => exact Nat.zero_le _
    | cons head other =>
        have restFirst := (List.cons_prefix_cons.mp ofFirst).2
        have restSecond := (List.cons_prefix_cons.mp ofSecond).2
        exact Nat.succ_le_succ (inner.longest other restFirst restSecond)

/-! ## The walk over lines -/

theorem firstDifference_eq_none_iff {number : Nat} {expected actual : List Text} :
    firstDifference number expected actual = none ↔ expected = actual := by
  induction expected generalizing number actual with
  | nil => cases actual <;> simp [firstDifference]
  | cons line expected ih =>
      cases actual with
      | nil => simp [firstDifference]
      | cons other actual =>
          by_cases same : line = other
          · simp [firstDifference, same, ih]
          · simp [firstDifference, same]

/-- A mismatch stands behind the longest common beginning.  It shows what stands
there on both sides, and these differ. -/
theorem firstDifference_eq_some {number : Nat} {expected actual : List Text} {mismatch : Mismatch}
    (found : firstDifference number expected actual = some mismatch) :
    ∃ common, LongestCommonPrefix expected actual common ∧
      mismatch.line = number + common.length ∧
      mismatch.expected = expected[common.length]? ∧
      mismatch.actual = actual[common.length]? ∧
      mismatch.expected ≠ mismatch.actual := by
  induction expected generalizing number actual with
  | nil =>
      cases actual with
      | nil => contradiction
      | cons other actual =>
          obtain rfl := Option.some.inj found
          exact ⟨[], .nil (by simp), rfl, rfl, rfl, by simp⟩
  | cons line expected ih =>
      cases actual with
      | nil =>
          obtain rfl := Option.some.inj found
          exact ⟨[], .nil (by simp), rfl, rfl, rfl, by simp⟩
      | cons other actual =>
          rw [firstDifference] at found
          split at found
          · rename_i same
            subst same
            obtain ⟨common, longest, place, left, right, differ⟩ := ih found
            refine ⟨line :: common, longest.cons line, ?_, left, right, differ⟩
            rw [place, List.length_cons]
            omega
          · rename_i different
            obtain rfl := Option.some.inj found
            exact ⟨[], .nil (by simpa using different), rfl, rfl, rfl, by simpa using different⟩

/-! ## Exchanging the sides -/

/-- A mismatch seen from the other side. -/
def Mismatch.swap (mismatch : Mismatch) : Mismatch :=
  { line := mismatch.line
    expected := mismatch.actual
    actual := mismatch.expected }

theorem firstDifference_swap (number : Nat) (expected actual : List Text) :
    firstDifference number actual expected =
      (firstDifference number expected actual).map Mismatch.swap := by
  induction expected generalizing number actual with
  | nil => cases actual <;> rfl
  | cons line expected ih =>
      cases actual with
      | nil => rfl
      | cons other actual =>
          rw [firstDifference, firstDifference]
          by_cases same : line = other
          · rw [if_pos same, if_pos same.symm, ih]
          · rw [if_neg same, if_neg (Ne.symm same)]
            rfl

/-! ## Whole texts -/

theorem agree_iff {mode : CompareMode} {expected actual : Text} :
    agree mode expected actual = true ↔ normalize mode expected = normalize mode actual :=
  beq_iff_eq

/-- The line-by-line walk comes to an end on both sides only for equal texts. -/
theorem firstMismatch_eq_none_iff {mode : CompareMode} {expected actual : Text} :
    firstMismatch mode expected actual = none ↔
      normalize mode expected = normalize mode actual := by
  rw [firstMismatch, firstDifference_eq_none_iff]
  exact Text.segments_injective.eq_iff

/-- There is no mismatch exactly if the texts agree.  Otherwise the mismatch stands
behind the longest common beginning of the lines of the two texts, and shows the
lines that follow it, of which at most one is missing.  Exchanging the texts
exchanges the sides of the mismatch and keeps its line. -/
theorem firstMismatch_locates_departure (mode : CompareMode) (expected actual : Text) :
    ∃ expectedLines actualLines,
      Text.Segmented (normalize mode expected) expectedLines ∧
      Text.Segmented (normalize mode actual) actualLines ∧
      (firstMismatch mode expected actual = none ↔ agree mode expected actual = true) ∧
      (∀ mismatch, firstMismatch mode expected actual = some mismatch →
        ∃ common, LongestCommonPrefix expectedLines actualLines common ∧
          mismatch.line = common.length + 1 ∧
          mismatch.expected = expectedLines[common.length]? ∧
          mismatch.actual = actualLines[common.length]? ∧
          mismatch.expected ≠ mismatch.actual ∧
          ¬(mismatch.expected = none ∧ mismatch.actual = none)) ∧
      firstMismatch mode actual expected =
        (firstMismatch mode expected actual).map Mismatch.swap := by
  refine ⟨_, _, Text.segmented_segments _, Text.segmented_segments _, ?_, ?_, ?_⟩
  · rw [firstMismatch_eq_none_iff, agree_iff]
  · intro mismatch found
    obtain ⟨common, longest, place, left, right, differ⟩ := firstDifference_eq_some found
    refine ⟨common, longest, by omega, left, right, differ, ?_⟩
    rintro ⟨noExpected, noActual⟩
    exact differ (noExpected.trans noActual.symm)
  · exact firstDifference_swap 1 _ _

end GoldenCheck.Diff
