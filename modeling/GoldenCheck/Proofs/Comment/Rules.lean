import GoldenCheck.Comment.Basic
import GoldenCheck.Proofs.Rule
import Mathlib.Data.List.Count
import Mathlib.Data.List.Nodup

/-!
# Laws of rule lists

What the checks of a rule list compute, said without their loops: which entries
are repeated, when a list is sorted, and when it is a list of rules.
-/

namespace GoldenCheck.Comment

/-! ## Blank lists -/

theorem isEmpty_iff {comment : Comment} :
    comment.isEmpty = true ↔ ∀ code ∈ comment.codes, code = [] := by
  simp [isEmpty]

/-! ## Repeated entries -/

theorem repeatsAux_cons_of_mem {seen : List Text} {first : Text} (known : first ∈ seen)
    (again rest : List Text) :
    repeatsAux seen again (first :: rest) =
      repeatsAux seen (if again.contains first then again else again ++ [first]) rest := by
  rw [repeatsAux, if_pos (List.contains_iff_mem.mpr known)]

theorem repeatsAux_cons_of_not_mem {seen : List Text} {first : Text} (unknown : first ∉ seen)
    (again rest : List Text) :
    repeatsAux seen again (first :: rest) = repeatsAux (seen ++ [first]) again rest := by
  rw [repeatsAux, if_neg (mt List.contains_iff_mem.mp unknown)]

/-- The walk adds the names that it has seen before and those that come twice. -/
theorem mem_repeatsAux_iff {seen again names : List Text} {name : Text} :
    name ∈ repeatsAux seen again names ↔
      name ∈ again ∨ (name ∈ seen ∧ name ∈ names) ∨ 2 ≤ names.count name := by
  induction names generalizing seen again with
  | nil => simp [repeatsAux]
  | cons first rest ih =>
      by_cases known : first ∈ seen
      · have added : name ∈ (if again.contains first then again else again ++ [first]) ↔
            name ∈ again ∨ name = first := by
          by_cases listed : first ∈ again
          · have absorbed : name = first → name ∈ again := fun same => same ▸ listed
            simp [listed, or_iff_left_of_imp absorbed]
          · simp [listed]
        rw [repeatsAux_cons_of_mem known, ih, added]
        by_cases same : name = first
        · subst same
          simp [known]
        · simp [same, List.count_cons_of_ne (Ne.symm same)]
      · rw [repeatsAux_cons_of_not_mem known, ih]
        by_cases same : name = first
        · subst same
          have member : 2 ≤ rest.count name → name ∈ rest := fun count =>
            List.count_pos_iff.mp (by omega)
          simp [known, or_iff_left_of_imp member]
        · simp [same, List.count_cons_of_ne (Ne.symm same)]

theorem mem_repeats_iff {names : List Text} {name : Text} :
    name ∈ repeats names ↔ 2 ≤ names.count name := by
  simp [repeats, mem_repeatsAux_iff]

/-- Nothing is repeated exactly in lists of distinct names. -/
theorem repeats_eq_nil_iff {names : List Text} : repeats names = [] ↔ names.Nodup := by
  rw [List.eq_nil_iff_forall_not_mem, List.nodup_iff_count_le_one]
  apply forall_congr'
  intro name
  rw [mem_repeats_iff]
  omega

theorem duplicates_eq_nil_iff {comment : Comment} :
    comment.duplicates = [] ↔ (comment.codes.filter fun code => !code.isEmpty).Nodup :=
  repeats_eq_nil_iff

/-! ## Sorted entries -/

theorem inOrder_iff_isChain {names : List Text} :
    inOrder names = true ↔ names.IsChain fun first second => namesInOrder first second = true := by
  induction names with
  | nil => simp [inOrder]
  | cons first rest ih =>
      cases rest with
      | nil => simp [inOrder]
      | cons second rest => rw [inOrder, Bool.and_eq_true, ih, List.isChain_cons_cons]

instance : Trans (fun first second => namesInOrder first second = true)
    (fun first second => namesInOrder first second = true)
    (fun first second => namesInOrder first second = true) where
  trans := namesInOrder_trans

/-- Neighbours in order put any two entries in order. -/
theorem isSorted_iff {comment : Comment} :
    comment.isSorted = true ↔
      comment.codes.Pairwise fun first second => compareNames first second ≠ .gt := by
  rw [isSorted, inOrder_iff_isChain, List.isChain_iff_pairwise]
  simp only [namesInOrder_iff]

/-! ## Lists of rules -/

/-- A list is one of rules exactly if it has entries and each is a rule. -/
theorem ruleNames_eq_ok_iff {comment : Comment} {names : List RuleName} :
    comment.ruleNames = .ok names ↔ names ≠ [] ∧ names.map RuleName.text = comment.codes := by
  rw [ruleNames, ← RuleName.mapM_parse_eq_ok_iff]
  cases parsed : comment.codes.mapM RuleName.parse with
  | error fault => simp
  | ok found =>
      cases found with
      | nil => simp +contextual [eq_comm]
      | cons first rest => simp +contextual [eq_comm]

theorem exists_ruleNames_eq_ok_iff {comment : Comment} :
    (∃ names, comment.ruleNames = .ok names) ↔
      comment.codes ≠ [] ∧ ∀ code ∈ comment.codes, SpellsRule code := by
  simp only [ruleNames_eq_ok_iff, ← isRuleName_iff]
  constructor
  · rintro ⟨names, nonempty, texts⟩
    rw [← texts]
    refine ⟨by simpa using nonempty, ?_⟩
    intro code member
    obtain ⟨name, -, rfl⟩ := List.mem_map.mp member
    exact name.isRule
  · rintro ⟨nonempty, rules⟩
    refine ⟨comment.codes.attach.map fun code => ⟨code.1, rules code.1 code.2⟩, ?_, ?_⟩
    · simpa using nonempty
    · simp

/-- A list of rules is not blank. -/
theorem not_isEmpty_of_rules {comment : Comment} (nonempty : comment.codes ≠ [])
    (rules : ∀ code ∈ comment.codes, SpellsRule code) : ¬comment.isEmpty = true := by
  intro empty
  obtain ⟨code, member⟩ := List.exists_mem_of_ne_nil _ nonempty
  have isRule := isRuleName_iff.mpr (rules code member)
  rw [isEmpty_iff.mp empty code member] at isRule
  exact not_isRuleName_nil isRule

/-- The first entry of a list that is no rule. -/
def FirstOffence (codes : List Text) (code : Text) : Prop :=
  ∃ front back, codes = front ++ code :: back ∧ (∀ rule ∈ front, SpellsRule rule) ∧
    ¬SpellsRule code

theorem FirstOffence.mem {codes : List Text} {code : Text} (first : FirstOffence codes code) :
    code ∈ codes := by
  obtain ⟨front, back, rfl, -⟩ := first
  exact List.mem_append_right _ List.mem_cons_self

/-- A list holds a first offence unless all its entries are rules. -/
theorem exists_firstOffence {codes : List Text} (offends : ¬∀ code ∈ codes, SpellsRule code) :
    ∃ code, FirstOffence codes code := by
  induction codes with
  | nil => exact absurd nofun offends
  | cons code codes ih =>
      by_cases isRule : SpellsRule code
      · have later : ¬∀ other ∈ codes, SpellsRule other := fun rules =>
          offends (List.forall_mem_cons.mpr ⟨isRule, rules⟩)
        obtain ⟨other, front, back, rfl, rules, noRule⟩ := ih later
        exact ⟨other, code :: front, back, rfl, List.forall_mem_cons.mpr ⟨isRule, rules⟩, noRule⟩
      · exact ⟨code, [], codes, rfl, nofun, isRule⟩

/-- The error of a list is that of its first offence.  A list without entries has none, and
is an error of its own. -/
theorem ruleNames_eq_error_iff {comment : Comment} {fault : RuleError} :
    comment.ruleNames = .error fault ↔
      (comment.codes = [] ∧ fault = .empty) ∨
        ∃ code, FirstOffence comment.codes code ∧ fault = .about code := by
  have ofNil (noCodes : comment.codes = []) : comment.ruleNames = .error .empty := by
    rw [ruleNames, noCodes]
    rfl
  have ofFirst {code : Text} (first : FirstOffence comment.codes code) :
      comment.ruleNames = .error (.about code) := by
    obtain ⟨front, back, split, rules, noRule⟩ := first
    rw [ruleNames, split, RuleName.mapM_parse_of_not_spellsRule rules noRule]
  constructor
  · intro failed
    by_cases noCodes : comment.codes = []
    · rw [ofNil noCodes] at failed
      exact .inl ⟨noCodes, (Except.error.inj failed).symm⟩
    · have offends : ¬∀ code ∈ comment.codes, SpellsRule code := by
        intro rules
        obtain ⟨names, parsed⟩ := exists_ruleNames_eq_ok_iff.mpr ⟨noCodes, rules⟩
        rw [parsed] at failed
        contradiction
      obtain ⟨code, first⟩ := exists_firstOffence offends
      rw [ofFirst first] at failed
      exact .inr ⟨code, first, (Except.error.inj failed).symm⟩
  · rintro (⟨noCodes, rfl⟩ | ⟨code, first, rfl⟩)
    · exact ofNil noCodes
    · exact ofFirst first

end GoldenCheck.Comment
