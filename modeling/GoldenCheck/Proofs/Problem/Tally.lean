import GoldenCheck.Program.Check
import GoldenCheck.Proofs.Order
import Mathlib.Algebra.GroupWithZero.Nat
import Mathlib.Data.List.Induction

/-!
# Tallies of problems

Problems are counted in one walk.  After any part of it the counts are those of the kinds met
so far, in the order in which these kinds first occurred.  They are then sorted by number,
and kinds that are equally frequent stay in that order.  What is printed is the end of the
sorted list, so nothing that is left out is more frequent than what is printed.
-/

namespace GoldenCheck.Problem

/-! ## First occurrences -/

/-- One kind more is a new one if it did not occur before. -/
theorem eraseDups_concat (kinds : List Kind) (kind : Kind) :
    (kinds ++ [kind]).eraseDups =
      if kind ∈ kinds then kinds.eraseDups else kinds.eraseDups ++ [kind] := by
  rw [List.eraseDups_append, List.removeAll]
  by_cases known : kind ∈ kinds
  · simp [known]
  · simp [known, List.eraseDups_cons]

/-- Kinds without repetitions come in the order of their first occurrences. -/
theorem pairwise_idxOf_eraseDups (kinds : List Kind) :
    kinds.eraseDups.Pairwise fun first second => kinds.idxOf first < kinds.idxOf second := by
  induction kinds using List.reverseRecOn with
  | nil => simp
  | append_singleton kinds kind ih =>
      have unmoved : kinds.eraseDups.Pairwise fun first second =>
          (kinds ++ [kind]).idxOf first < (kinds ++ [kind]).idxOf second := by
        apply ih.imp_of_mem
        intro first second isFirst isSecond before
        rw [List.idxOf_append_of_mem (List.mem_eraseDups.mp isFirst),
          List.idxOf_append_of_mem (List.mem_eraseDups.mp isSecond)]
        exact before
      rw [eraseDups_concat]
      split
      · exact unmoved
      · rename_i fresh
        apply List.pairwise_append.mpr
        refine ⟨unmoved, List.pairwise_singleton _ _, ?_⟩
        intro first isFirst last isLast
        rw [List.mem_singleton.mp isLast, List.idxOf_append_of_notMem fresh,
          List.idxOf_append_of_mem (List.mem_eraseDups.mp isFirst)]
        exact Nat.lt_add_right _ (List.idxOf_lt_length_iff.mpr (List.mem_eraseDups.mp isFirst))

theorem nodup_eraseDups (kinds : List Kind) : kinds.eraseDups.Nodup := by
  apply (pairwise_idxOf_eraseDups kinds).imp
  rintro first second before rfl
  exact Nat.lt_irrefl _ before

/-! ## Counting -/

/-- Counting one more raises the number of its kind, which is added if it is new. -/
theorem countKind_map {kinds : List Kind} {kind : Kind} {number : Kind → Nat}
    (distinct : kinds.Nodup) (unmet : kind ∉ kinds → number kind = 0) :
    countKind kind (kinds.map fun other => (other, number other)) =
      (if kind ∈ kinds then kinds else kinds ++ [kind]).map fun other =>
        (other, if other = kind then number other + 1 else number other) := by
  induction kinds with
  | nil => simp [countKind, unmet]
  | cons first rest ih =>
      rcases List.nodup_cons.mp distinct with ⟨single, distinct⟩
      rw [List.map_cons, countKind]
      by_cases here : first = kind
      · subst here
        have elsewhere : ∀ other ∈ rest, other ≠ first := by
          rintro other member rfl
          exact single member
        simp +contextual [elsewhere]
      · have unmetLater : kind ∉ rest → number kind = 0 := by
          intro absent
          apply unmet
          simp [absent, Ne.symm here]
        rw [if_neg here, ih distinct unmetLater]
        by_cases later : kind ∈ rest
        · simp [later, here]
        · simp [later, here, Ne.symm here]

theorem sum_countKind (kind : Kind) (counts : List (Kind × Nat)) :
    ((countKind kind counts).map Prod.snd).sum = (counts.map Prod.snd).sum + 1 := by
  induction counts with
  | nil => simp [countKind]
  | cons first rest ih =>
      rw [countKind]
      split
      · simp only [List.map_cons, List.sum_cons]
        omega
      · simp only [List.map_cons, List.sum_cons, ih]
        omega

/-- Each kind that occurs with the number of its occurrences, in the order of the first ones. -/
def counts (kinds : List Kind) : List (Kind × Nat) :=
  kinds.eraseDups.map fun kind => (kind, kinds.count kind)

theorem countKind_counts (kinds : List Kind) (kind : Kind) :
    countKind kind (counts kinds) = counts (kinds ++ [kind]) := by
  have unmet : kind ∉ kinds.eraseDups → kinds.count kind = 0 := by
    intro absent
    apply List.count_eq_zero_of_not_mem
    rwa [← List.mem_eraseDups]
  have raised (other : Kind) : (kinds ++ [kind]).count other =
      if other = kind then kinds.count other + 1 else kinds.count other := by
    by_cases same : other = kind
    · simp [same]
    · simp [same, Ne.symm same]
  rw [counts, countKind_map (nodup_eraseDups kinds) unmet, counts, eraseDups_concat]
  simp only [List.mem_eraseDups, raised]

/-- The walk counts the problems of each kind. -/
theorem foldl_countKind (problems : List Problem) :
    problems.foldl (fun counts problem => countKind problem.kind counts) [] =
      counts (problems.map kind) := by
  induction problems using List.reverseRecOn with
  | nil => rfl
  | append_singleton problems problem ih =>
      rw [List.foldl_append, ih, List.foldl_cons, List.foldl_nil, countKind_counts,
        List.map_append, List.map_singleton]

theorem mem_counts_iff {kinds : List Kind} {kind : Kind} {number : Nat} :
    (kind, number) ∈ counts kinds ↔ kind ∈ kinds ∧ number = kinds.count kind := by
  rw [counts, List.mem_map]
  constructor
  · rintro ⟨_, member, same⟩
    cases same
    exact ⟨List.mem_eraseDups.mp member, rfl⟩
  · rintro ⟨member, rfl⟩
    exact ⟨kind, List.mem_eraseDups.mpr member, rfl⟩

theorem sum_counts (kinds : List Kind) : ((counts kinds).map Prod.snd).sum = kinds.length := by
  induction kinds using List.reverseRecOn with
  | nil => rfl
  | append_singleton kinds kind ih =>
      rw [← countKind_counts, sum_countKind, ih, List.length_append, List.length_singleton]

/-! ## Sorting -/

/-- One count comes before another: its number is smaller, or the numbers are the same and its
kind occurs first. -/
def RarerOrEarlier (kinds : List Kind) (first second : Kind × Nat) : Prop :=
  first.2 < second.2 ∨ first.2 = second.2 ∧ kinds.idxOf first.1 < kinds.idxOf second.1

theorem tally_eq_sortBy (problems : List Problem) :
    tally problems = sortBy (compareOn Prod.snd) (counts (problems.map kind)) := by
  have sameTest : (fun first second : Kind × Nat => decide (first.2 ≤ second.2)) =
      fun first second => compareOn Prod.snd first second != .gt := by
    funext first second
    rw [Bool.eq_iff_iff, decide_eq_true_iff, bne_iff_ne, compareOn, ne_eq, Nat.compare_eq_gt]
    exact Nat.not_lt.symm
  rw [tally, foldl_countKind, sameTest]
  rfl

theorem perm_tally (problems : List Problem) :
    (tally problems).Perm (counts (problems.map kind)) := by
  rw [tally_eq_sortBy]
  exact perm_sortBy _

theorem pairwise_tally (problems : List Problem) :
    (tally problems).Pairwise (RarerOrEarlier (problems.map kind)) := by
  have given : (counts (problems.map kind)).Pairwise fun first second =>
      (problems.map kind).idxOf first.1 < (problems.map kind).idxOf second.1 :=
    List.pairwise_map.mpr (pairwise_idxOf_eraseDups _)
  rw [tally_eq_sortBy]
  apply (pairwise_sortBy_of_pairwise given).imp
  intro first second ordered
  rwa [compareOn, Nat.compare_eq_lt, Nat.compare_eq_eq] at ordered

/-! ## The most frequent kinds -/

theorem topKinds_eq_drop (problems : List Problem) (limit : Nat) :
    topKinds problems limit = (tally problems).drop ((tally problems).length - limit) := by
  rw [topKinds, List.take_reverse, List.reverse_reverse]

/-- A line is printed for each of the most frequent kinds. -/
theorem map_render_countNotices (request : Program.CheckRequest) (problems : List Problem)
    (limit : Nat) (threshold : Topic → Threshold) (elapsed : Text) :
    (Program.countNotices { request with countLimit := some limit } problems).map
        (Notice.render threshold elapsed) =
      (topKinds problems limit).map fun count =>
        Text.cat [Text.thousands count.2, " instances of ", count.1.name, "\n"] := by
  rw [Program.countNotices, List.map_map]
  apply List.map_congr_left
  intro count _
  simp [Notice.render, tallyLine, Text.cat]

/-- A tally has each kind that occurs once, with the number of its occurrences, and these
numbers add up to that of the problems.  Rarer kinds come first, and of equally frequent ones
the one that occurs first.  What is printed is the end of the tally, as long as the limit
allows, so no kind that is left out is more frequent than one that is printed. -/
theorem tally_counts_every_kind (problems : List Problem) :
    let kinds := problems.map kind
    ((tally problems).map Prod.fst).Nodup ∧
      (∀ kind number, (kind, number) ∈ tally problems ↔
        kind ∈ kinds ∧ number = kinds.count kind) ∧
      ((tally problems).map Prod.snd).sum = problems.length ∧
      (tally problems).Pairwise (RarerOrEarlier kinds) ∧
      ∀ (request : Program.CheckRequest) (limit : Nat), ∃ omitted shown,
        omitted ++ shown = tally problems ∧
        shown.length = min limit (tally problems).length ∧
        (∀ threshold elapsed,
          (Program.countNotices { request with countLimit := some limit } problems).map
              (Notice.render threshold elapsed) =
            shown.map fun count =>
              Text.cat [Text.thousands count.2, " instances of ", count.1.name, "\n"]) ∧
        ∀ left ∈ omitted, ∀ printed ∈ shown, left.2 ≤ printed.2 := by
  intro kinds
  have permuted := perm_tally problems
  have ascending := pairwise_tally problems
  refine ⟨?_, ?_, ?_, ascending, ?_⟩
  · apply (permuted.map Prod.fst).nodup_iff.mpr
    rw [counts, List.map_map]
    simpa [Function.comp_def] using nodup_eraseDups kinds
  · intro kind number
    rw [permuted.mem_iff, mem_counts_iff]
  · rw [(permuted.map Prod.snd).sum_nat, sum_counts, List.length_map]
  · intro request limit
    have cut := List.take_append_drop ((tally problems).length - limit) (tally problems)
    rw [← cut, List.pairwise_append] at ascending
    rw [← topKinds_eq_drop] at cut ascending
    refine ⟨_, _, cut, ?_, ?_, ?_⟩
    · rw [topKinds_eq_drop, List.length_drop]
      omega
    · intro threshold elapsed
      exact map_render_countNotices request problems limit threshold elapsed
    · intro left isLeft printed isPrinted
      rcases ascending.2.2 left isLeft printed isPrinted with rarer | ⟨same, -⟩
      · exact Nat.le_of_lt rarer
      · exact Nat.le_of_eq same

-- The kinds that are equally frequent stay in the order in which they first occur.
example :
    let path := Path.ofText "a.py"
    topKinds [⟨path, 1, .invalidRuleId, []⟩, ⟨path, 2, .missingHeader, []⟩,
      ⟨path, 3, .emptyRuleList, []⟩, ⟨path, 4, .missingHeader, []⟩] 2 =
        [(.emptyRuleList, 1), (.missingHeader, 2)] := by
  cbv

end GoldenCheck.Problem
