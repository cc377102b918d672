import Mathlib.Data.List.Sort

/-!
# Sorting by a comparison

Lists are sorted by comparisons under which different elements may tie.  Sorting
is insertion of one element after the other, and two insertions can be exchanged
unless the elements tie without being equal.  So the order in which elements are
given matters only among such ties.
-/

namespace GoldenCheck

/-- One list comes before another if it does at the first place where they
differ, or ends there. -/
theorem compareLex_eq_lt_iff {α : Type} {cmp : α → α → Ordering} [Std.LawfulEqCmp cmp]
    {first second : List α} :
    List.compareLex cmp first second = .lt ↔
      List.Lex (fun x y => cmp x y = .lt) first second := by
  induction first generalizing second with
  | nil =>
      cases second with
      | nil => simp [List.compareLex_nil_nil]
      | cons y second => simp [List.compareLex_nil_cons]
  | cons x first ih =>
      cases second with
      | nil => simp [List.compareLex_cons_nil]
      | cons y second =>
          rw [List.compareLex_cons_cons, Ordering.then_eq_lt, List.cons_lex_cons_iff, ih,
            Std.LawfulEqCmp.compare_eq_iff_eq]

/-- Lists are compared lexicographically if their elements are compared by their order. -/
theorem compare_list_eq_lt_iff {α : Type} [Ord α] [LT α] [Std.LawfulEqOrd α]
    (elements : ∀ x y : α, compare x y = .lt ↔ x < y) {first second : List α} :
    compare first second = .lt ↔ first < second := by
  rw [List.compare_eq_compareLex, compareLex_eq_lt_iff]
  simp only [elements]
  rfl

/-- Comparing by what a function makes of the elements. -/
theorem transCmp_on {α β : Type} (cmp : β → β → Ordering) [Std.TransCmp cmp] (f : α → β) :
    Std.TransCmp fun first second => cmp (f first) (f second) where
  eq_swap := Std.OrientedCmp.eq_swap
  isLE_trans := Std.TransCmp.isLE_trans

section Sorting

variable {α : Type} {cmp : α → α → Ordering}

/-! ## Insertion -/

/-- Put an element into a sorted list, before the elements that it ties with. -/
def insertBy (cmp : α → α → Ordering) (element : α) (sorted : List α) : List α :=
  sorted.orderedInsert (fun first second => cmp first second ≠ .gt) element

@[simp]
theorem insertBy_nil (x : α) : insertBy cmp x [] = [x] :=
  rfl

theorem insertBy_cons_of_gt {x y : α} {sorted : List α} (above : cmp x y = .gt) :
    insertBy cmp x (y :: sorted) = y :: insertBy cmp x sorted :=
  List.orderedInsert_of_not_le _ _ (not_not.mpr above)

theorem insertBy_cons_of_not_gt {x y : α} {sorted : List α} (ordered : cmp x y ≠ .gt) :
    insertBy cmp x (y :: sorted) = x :: y :: sorted :=
  List.orderedInsert_cons_of_le _ _ ordered

/-- The place of an insertion: after the lesser elements, before all others. -/
theorem insertBy_append {x : α} {lesser others : List α}
    (before : ∀ y ∈ lesser, cmp x y = .gt) (after : ∀ y ∈ others, cmp x y ≠ .gt) :
    insertBy cmp x (lesser ++ others) = lesser ++ x :: others := by
  induction lesser with
  | nil =>
      cases others with
      | nil => rfl
      | cons y others => exact insertBy_cons_of_not_gt (after y List.mem_cons_self)
  | cons y lesser ih =>
      obtain ⟨here, before⟩ := List.forall_mem_cons.mp before
      rw [List.cons_append, insertBy_cons_of_gt here, ih before, List.cons_append]

/-- The elements in ascending order.  Those that tie stay in the order in which
they are given. -/
def sortBy (cmp : α → α → Ordering) (elements : List α) : List α :=
  elements.mergeSort fun first second => cmp first second != .gt

theorem perm_sortBy (elements : List α) : (sortBy cmp elements).Perm elements :=
  List.mergeSort_perm elements _

variable [Std.TransCmp cmp]

/-- Elements that do not tie, or are equal, may be inserted in either order. -/
theorem insertBy_comm {x y : α} (untied : cmp x y = .eq → x = y) (sorted : List α) :
    insertBy cmp x (insertBy cmp y sorted) = insertBy cmp y (insertBy cmp x sorted) := by
  wlog below : cmp x y = .lt generalizing x y
  · cases side : cmp x y with
    | lt => exact absurd side below
    | eq => rw [untied side]
    | gt =>
        have below := Std.OrientedCmp.lt_of_gt side
        exact (this (by simp [below]) below).symm
  have ordered : cmp x y ≠ .gt := by simp [below]
  have above : cmp y x = .gt := Std.OrientedCmp.gt_of_lt below
  -- Now `x` stays in front of `y`, whichever of them comes to stand before `z` first.
  induction sorted with
  | nil =>
      rw [insertBy_nil, insertBy_nil, insertBy_cons_of_not_gt ordered,
        insertBy_cons_of_gt above, insertBy_nil]
  | cons z sorted ih =>
      by_cases beyond : cmp x z = .gt
      · have farther : cmp y z = .gt := by
          by_contra near
          exact Std.TransCmp.le_trans ordered near beyond
        rw [insertBy_cons_of_gt farther, insertBy_cons_of_gt beyond, insertBy_cons_of_gt beyond,
          insertBy_cons_of_gt farther, ih]
      · rw [insertBy_cons_of_not_gt beyond, insertBy_cons_of_gt above]
        by_cases farther : cmp y z = .gt
        · rw [insertBy_cons_of_gt farther, insertBy_cons_of_not_gt beyond]
        · rw [insertBy_cons_of_not_gt farther, insertBy_cons_of_not_gt ordered]

/-! ## Sorting -/

theorem inOrder_trans (x y z : α) (first : (cmp x y != .gt) = true)
    (second : (cmp y z != .gt) = true) : (cmp x z != .gt) = true := by
  rw [bne_iff_ne] at first second ⊢
  exact Std.TransCmp.le_trans first second

theorem inOrder_total (x y : α) : (cmp x y != .gt || cmp y x != .gt) = true := by
  rw [Bool.or_eq_true, bne_iff_ne, bne_iff_ne]
  by_cases above : cmp x y = .gt
  · right
    rw [Std.OrientedCmp.lt_of_gt above]
    decide
  · exact .inl above

theorem pairwise_sortBy (elements : List α) :
    (sortBy cmp elements).Pairwise fun first second => cmp first second ≠ .gt := by
  refine (List.pairwise_mergeSort inOrder_trans inOrder_total elements).imp ?_
  intro first second ordered
  exact bne_iff_ne.mp ordered

/-- Sorting inserts one element after the other. -/
theorem sortBy_cons (x : α) (elements : List α) :
    sortBy cmp (x :: elements) = insertBy cmp x (sortBy cmp elements) := by
  have ascending : (sortBy cmp (x :: elements)).Pairwise _ := pairwise_sortBy (x :: elements)
  obtain ⟨lesser, others, sorted, remaining, before⟩ :=
    @List.mergeSort_cons _ (fun first second => cmp first second != .gt)
      inOrder_trans inOrder_total x elements
  rw [sortBy, sorted, List.pairwise_append, List.pairwise_cons] at ascending
  rw [sortBy, sortBy, sorted, remaining, insertBy_append]
  · simpa using before
  · exact ascending.2.1.1

/-- An element that is to stand before all those it ties with is put in front of them. -/
theorem pairwise_insertBy {before : α → α → Prop} {x : α} {sorted : List α}
    (first : ∀ y ∈ sorted, before x y)
    (ascending : sorted.Pairwise fun y z => cmp y z = .lt ∨ cmp y z = .eq ∧ before y z) :
    (insertBy cmp x sorted).Pairwise fun y z => cmp y z = .lt ∨ cmp y z = .eq ∧ before y z := by
  induction sorted with
  | nil => exact List.pairwise_singleton _ _
  | cons y sorted ih =>
      rcases List.forall_mem_cons.mp first with ⟨firstHere, firstLater⟩
      rcases List.pairwise_cons.mp ascending with ⟨below, later⟩
      by_cases above : cmp x y = .gt
      · rw [insertBy_cons_of_gt above]
        apply List.pairwise_cons.mpr
        refine ⟨?_, ih firstLater later⟩
        intro z member
        rcases (List.mem_orderedInsert _).mp member with rfl | isLater
        · exact .inl (Std.OrientedCmp.lt_of_gt above)
        · exact below z isLater
      · rw [insertBy_cons_of_not_gt above]
        apply List.pairwise_cons.mpr
        refine ⟨?_, ascending⟩
        intro z member
        have ordered : cmp x z ≠ .gt := by
          rcases List.mem_cons.mp member with rfl | isLater
          · exact above
          · apply Std.TransCmp.le_trans above
            rcases below z isLater with lower | ⟨tied, -⟩
            · simp [lower]
            · simp [tied]
        cases side : cmp x z with
        | lt => exact .inl rfl
        | eq => exact .inr ⟨rfl, first z member⟩
        | gt => exact absurd side ordered

/-- Sorting is stable: elements that tie stay as they were given. -/
theorem pairwise_sortBy_of_pairwise {before : α → α → Prop} {elements : List α}
    (given : elements.Pairwise before) :
    (sortBy cmp elements).Pairwise fun x y => cmp x y = .lt ∨ cmp x y = .eq ∧ before x y := by
  induction given with
  | nil => simp [sortBy]
  | @cons x elements first _ ih =>
      rw [sortBy_cons]
      apply pairwise_insertBy _ ih
      intro y member
      exact first y ((perm_sortBy elements).mem_iff.mp member)

theorem sortBy_append (first second : List α) :
    sortBy cmp (first ++ second) = first.foldr (insertBy cmp) (sortBy cmp second) := by
  induction first with
  | nil => rfl
  | cons x first ih => rw [List.cons_append, sortBy_cons, ih, List.foldr_cons]

/-- Elements of which no two different ones tie may be given in any order. -/
theorem sortBy_append_of_perm {first second rest : List α} (permuted : first.Perm second)
    (untied : ∀ x ∈ first, ∀ y ∈ first, cmp x y = .eq → x = y) :
    sortBy cmp (first ++ rest) = sortBy cmp (second ++ rest) := by
  rw [sortBy_append, sortBy_append]
  apply permuted.foldr_eq'
  intro x inFirst y alsoInFirst sorted
  exact insertBy_comm (untied y alsoInFirst x inFirst) sorted

theorem sortBy_of_perm {first second : List α} (permuted : first.Perm second)
    (untied : ∀ x ∈ first, ∀ y ∈ first, cmp x y = .eq → x = y) :
    sortBy cmp first = sortBy cmp second := by
  have sorted := @sortBy_append_of_perm _ cmp _ first second [] permuted untied
  rwa [List.append_nil, List.append_nil] at sorted

end Sorting

end GoldenCheck
