import GoldenCheck.Proofs.Comment.Canonical
import GoldenCheck.Proofs.Comment.Rules

/-!
# Repeated entries

The search for repeated entries walks through a list once and keeps the names it has
seen and those it has seen again.  What it has found after any part of the list is told
by what one more name adds: the name itself, if it stands there for the second time, and
else nothing.  So it finds each repeated name once, in the order of the second
occurrences.  Blank entries are left out and do not disturb the places of the others.
-/

namespace GoldenCheck.Comment

/-! ## One name more -/

/-- A name at the end is added if it was seen, and was not seen again before. -/
theorem repeatsAux_concat (seen again names : List Text) (name : Text) :
    repeatsAux seen again (names ++ [name]) =
      repeatsAux seen again names ++
        if (name ∈ seen ∨ name ∈ names) ∧ name ∉ repeatsAux seen again names then [name]
        else [] := by
  induction names generalizing seen again with
  | nil =>
      by_cases known : name ∈ seen
      · by_cases listed : name ∈ again <;> simp [repeatsAux, known, listed]
      · simp [repeatsAux, known]
  | cons first rest ih =>
      rw [List.cons_append]
      by_cases known : first ∈ seen
      · have absorbed : name ∈ seen ∨ name ∈ first :: rest ↔ name ∈ seen ∨ name ∈ rest := by
          rw [List.mem_cons]
          constructor
          · rintro (isSeen | rfl | later)
            · exact .inl isSeen
            · exact .inl known
            · exact .inr later
          · rintro (isSeen | later)
            · exact .inl isSeen
            · exact .inr (.inr later)
        rw [repeatsAux_cons_of_mem known, repeatsAux_cons_of_mem known, ih]
        simp only [absorbed]
      · have moved : name ∈ seen ∨ name ∈ first :: rest ↔
            name ∈ seen ++ [first] ∨ name ∈ rest := by
          rw [List.mem_cons, List.mem_append, List.mem_singleton, or_assoc]
        rw [repeatsAux_cons_of_not_mem known, repeatsAux_cons_of_not_mem known, ih]
        simp only [moved]

/-- A name at the end is repeated anew if it stands there for the second time. -/
theorem repeats_concat (names : List Text) (name : Text) :
    repeats (names ++ [name]) =
      repeats names ++ if names.count name = 1 then [name] else [] := by
  have second : (name ∈ [] ∨ name ∈ names) ∧ name ∉ repeats names ↔ names.count name = 1 := by
    rw [or_iff_right List.not_mem_nil, mem_repeats_iff, ← List.count_pos_iff]
    omega
  rw [repeats, repeatsAux_concat, ← repeats]
  simp only [second]

/-- The same where some entries are left out. -/
theorem repeats_filter_concat (keep : Text → Bool) (codes : List Text) (code : Text) :
    repeats ((codes ++ [code]).filter keep) =
      repeats (codes.filter keep) ++
        if keep code = true ∧ codes.count code = 1 then [code] else [] := by
  by_cases kept : keep code = true
  · have single : [code].filter keep = [code] := by simp [kept]
    rw [List.filter_append, single, repeats_concat, List.count_filter kept]
    simp [kept]
  · simp [List.filter_append, kept]

/-! ## Every repeated name once -/

theorem mem_repeats_filter_iff {keep : Text → Bool} {codes : List Text} {code : Text} :
    code ∈ repeats (codes.filter keep) ↔ keep code = true ∧ 2 ≤ codes.count code := by
  rw [mem_repeats_iff]
  by_cases kept : keep code = true
  · rw [List.count_filter kept]
    simp [kept]
  · have absent : code ∉ codes.filter keep := fun member => kept (List.mem_filter.mp member).2
    simp [List.count_eq_zero_of_not_mem absent, kept]

theorem nodup_repeats (names : List Text) : (repeats names).Nodup := by
  induction names using List.reverseRecOn with
  | nil => exact List.nodup_nil
  | append_singleton names name ih =>
      rw [repeats_concat]
      split
      · rename_i second
        have fresh : name ∉ repeats names := by
          rw [mem_repeats_iff]
          omega
        rw [← List.concat_eq_append]
        exact ih.concat fresh
      · rwa [List.append_nil]

/-! ## The order of the second occurrences -/

/-- A name stands at a place of a list for the second time. -/
def SecondAt (codes : List Text) (index : Nat) (code : Text) : Prop :=
  codes[index]? = some code ∧ (codes.take index).count code = 1

namespace SecondAt

variable {codes : List Text} {index : Nat} {code : Text}

theorem lt_length (second : SecondAt codes index code) : index < codes.length :=
  (List.getElem?_eq_some_iff.mp second.1).1

theorem append (second : SecondAt codes index code) (more : List Text) :
    SecondAt (codes ++ more) index code := by
  have inside := second.lt_length
  constructor
  · rw [List.getElem?_append_left inside]
    exact second.1
  · rw [List.take_append_of_le_length (Nat.le_of_lt inside)]
    exact second.2

/-- One name more stands for the second time if it stood there once. -/
theorem concat (once : codes.count code = 1) :
    SecondAt (codes ++ [code]) codes.length code := by
  constructor
  · exact List.getElem?_concat_length
  · rwa [List.take_left]

end SecondAt

/-- Repeated names come in the order of the places at which they stand for the second
time. -/
theorem exists_places_repeats_filter (keep : Text → Bool) (codes : List Text) :
    ∃ places : List Nat, places.Pairwise (· < ·) ∧
      List.Forall₂ (SecondAt codes) places (repeats (codes.filter keep)) := by
  induction codes using List.reverseRecOn with
  | nil => exact ⟨[], .nil, .nil⟩
  | append_singleton codes code ih =>
      obtain ⟨places, ascending, found⟩ := ih
      have foundAgain : List.Forall₂ (SecondAt (codes ++ [code])) places
          (repeats (codes.filter keep)) := found.imp fun index name second => second.append [code]
      rw [repeats_filter_concat]
      split
      · rename_i second
        refine ⟨places ++ [codes.length], ?_, ?_⟩
        · rw [List.pairwise_append]
          refine ⟨ascending, List.pairwise_singleton _ _, ?_⟩
          have inside : (∀ index ∈ places, index < codes.length) ∧ _ :=
            (List.forall₂_and_left _ _).mp
              (found.imp fun index name second => ⟨second.lt_length, second⟩)
          simpa using inside.1
        · exact List.rel_append foundAgain (.cons (.concat second.2) .nil)
      · rw [List.append_nil]
        exact ⟨places, ascending, foundAgain⟩

/-! ## The duplicates of a comment -/

/-- The entries that are left out are the blank ones. -/
theorem duplicates_eq_repeats (comment : Comment) :
    comment.duplicates =
      repeats (comment.codes.filter fun code => !Text.isBlankText code) := by
  rw [duplicates]
  congr 1
  apply List.filter_congr
  intro code member
  rw [Bool.not_inj_iff, Bool.eq_iff_iff, isBlankText_iff_of_mem_codes member, List.isEmpty_iff]

/-- The duplicates of a comment are its entries that are not blank and occur at least
twice, each once and nothing else.  They come in the order of the places at which they
stand for the second time.  There are none exactly if the entries that are not blank are
distinct. -/
theorem duplicates_list_second_occurrences (comment : Comment) :
    (∀ code, comment.duplicates.count code = 1 ↔
      Text.isBlankText code = false ∧ 2 ≤ comment.codes.count code) ∧
      (∀ code ∈ comment.duplicates,
        Text.isBlankText code = false ∧ 2 ≤ comment.codes.count code) ∧
      (∃ places : List Nat, places.Pairwise (· < ·) ∧
        List.Forall₂ (SecondAt comment.codes) places comment.duplicates) ∧
      (comment.duplicates = [] ↔
        (comment.codes.filter fun code => !Text.isBlankText code).Nodup) := by
  have member (code : Text) : code ∈ comment.duplicates ↔
      Text.isBlankText code = false ∧ 2 ≤ comment.codes.count code := by
    rw [duplicates_eq_repeats, mem_repeats_filter_iff, Bool.not_eq_true']
  rw [duplicates_eq_repeats] at member ⊢
  refine ⟨?_, fun code => (member code).mp, exists_places_repeats_filter _ _, repeats_eq_nil_iff⟩
  intro code
  rw [← member]
  constructor
  · intro once
    exact List.count_pos_iff.mp (by omega)
  · intro listed
    exact List.count_eq_one_of_mem (nodup_repeats _) listed

-- `b` occurs first, but `a` is repeated first.
example : repeats ["b".toList, "a".toList, "a".toList, "b".toList, "b".toList] =
    ["a".toList, "b".toList] := by
  decide

end GoldenCheck.Comment
