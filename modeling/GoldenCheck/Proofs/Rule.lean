import GoldenCheck.Proofs.Order
import GoldenCheck.Proofs.Text.Basic
import GoldenCheck.Proofs.Text.ByteOrder
import GoldenCheck.Rule
import Mathlib.Data.List.Chain

/-!
# Laws of rule names

A name is a rule exactly if it is `report` followed by at least one ASCII letter.
Parsing keeps the text, so a list of parsed names determines and is determined by
the list of their texts.  A list that does not parse fails at the first text that is
no rule name.

Alphabetical order is transitive, which makes order between neighbours order throughout a
list.  It tells any two names apart, so a list has one sorted arrangement, which does not
depend on the order in which its names are given.  In terms of bytes, it is the order of the
names in lower case, and of the names themselves where these are the same.
-/

namespace GoldenCheck

/-! ## Rule names -/

theorem isRuleLetter_iff {c : Char} : isRuleLetter c = true ↔ c.isAlpha = true := by
  change _ ↔ (decide (c.val ≥ 'A'.val ∧ c.val ≤ 'Z'.val) ||
    c.val ≥ 'a'.val && c.val ≤ 'z'.val) = true
  simp only [isRuleLetter, Bool.or_eq_true, Bool.and_eq_true, decide_eq_true_eq, ge_iff_le,
    Char.le_def]
  exact or_comm

/-- A text is `report` followed by at least one ASCII letter. -/
def SpellsRule (text : Text) : Prop :=
  ∃ letters : Text, text = "report".toList ++ letters ∧ letters ≠ [] ∧
    ∀ c ∈ letters, c.isAlpha = true

theorem isRuleName_iff {text : Text} : isRuleName text = true ↔ SpellsRule text := by
  unfold isRuleName SpellsRule
  cases stripped : List.isPrefixOf? "report".toList text with
  | none =>
      simp only [Bool.false_eq_true, false_iff]
      rintro ⟨letters, rfl, -⟩
      rw [List.isPrefixOf?_eq_some_iff_append_eq.mpr rfl] at stripped
      contradiction
  | some letters =>
      have joined := List.isPrefixOf?_eq_some_iff_append_eq.mp stripped
      constructor
      · intro accepted
        obtain ⟨nonempty, alpha⟩ := Bool.and_eq_true_iff.mp accepted
        refine ⟨letters, joined.symm, by simpa using nonempty, ?_⟩
        intro c member
        exact isRuleLetter_iff.mp (List.all_eq_true.mp alpha c member)
      · rintro ⟨others, shape, nonempty, alpha⟩
        obtain rfl : others = letters := List.append_cancel_left (shape.symm.trans joined.symm)
        refine Bool.and_eq_true_iff.mpr ⟨by simpa using nonempty, List.all_eq_true.mpr ?_⟩
        intro c member
        exact isRuleLetter_iff.mpr (alpha c member)

instance : DecidablePred SpellsRule := fun _ => decidable_of_iff _ isRuleName_iff

theorem not_isRuleName_nil : ¬isRuleName [] = true := by
  decide

/-- What is wrong with a text that is no rule name. -/
def RuleError.about (text : Text) : RuleError :=
  if text = [] then .empty else .malformed text

namespace RuleName

/-- Parsing accepts the rule names and keeps their texts. -/
theorem parse_eq_ok_iff {text : Text} {name : RuleName} :
    parse text = .ok name ↔ name.text = text := by
  unfold parse
  constructor
  · intro parsed
    split at parsed
    · contradiction
    · split at parsed
      · obtain rfl := Except.ok.inj parsed
        rfl
      · contradiction
  · rintro rfl
    have nonempty : ¬name.text.isEmpty = true := by
      intro empty
      have isRule := name.isRule
      rw [List.isEmpty_iff.mp empty] at isRule
      exact not_isRuleName_nil isRule
    rw [if_neg nonempty, dif_pos name.isRule]

theorem exists_parse_eq_ok_iff {text : Text} :
    (∃ name, parse text = .ok name) ↔ isRuleName text = true := by
  constructor
  · rintro ⟨name, parsed⟩
    obtain rfl := parse_eq_ok_iff.mp parsed
    exact name.isRule
  · intro isRule
    exact ⟨⟨text, isRule⟩, parse_eq_ok_iff.mpr rfl⟩

theorem parse_of_not_spellsRule {text : Text} (noRule : ¬SpellsRule text) :
    parse text = .error (.about text) := by
  rw [← isRuleName_iff] at noRule
  unfold parse RuleError.about
  by_cases empty : text = []
  · rw [if_pos (List.isEmpty_iff.mpr empty), if_pos empty]
  · rw [if_neg (mt List.isEmpty_iff.mp empty), dif_neg noRule, if_neg empty]

/-- The first text that is no rule name stops the reading of a list. -/
theorem mapM_parse_of_not_spellsRule {front : List Text} {code : Text}
    (rules : ∀ rule ∈ front, SpellsRule rule) (noRule : ¬SpellsRule code) (back : List Text) :
    (front ++ code :: back).mapM parse = .error (.about code) := by
  induction front with
  | nil =>
      rw [List.nil_append, List.mapM_cons, parse_of_not_spellsRule noRule]
      rfl
  | cons rule front ih =>
      obtain ⟨isRule, rules⟩ := List.forall_mem_cons.mp rules
      obtain ⟨name, parsed⟩ := exists_parse_eq_ok_iff.mpr (isRuleName_iff.mpr isRule)
      rw [List.cons_append, List.mapM_cons, parsed, ih rules]
      rfl

/-- A list parses to the names with its texts. -/
theorem mapM_parse_eq_ok_iff {codes : List Text} {names : List RuleName} :
    codes.mapM parse = .ok names ↔ names.map text = codes := by
  induction codes generalizing names with
  | nil =>
      rw [List.mapM_nil, List.map_eq_nil_iff]
      constructor
      · intro parsed
        exact (Except.ok.inj parsed).symm
      · rintro rfl
        rfl
  | cons code codes ih =>
      rw [List.mapM_cons]
      constructor
      · intro parsed
        cases first : parse code with
        | error fault =>
            rw [first] at parsed
            contradiction
        | ok name =>
            cases rest : codes.mapM parse with
            | error fault =>
                rw [first, rest] at parsed
                contradiction
            | ok later =>
                rw [first, rest] at parsed
                obtain rfl := Except.ok.inj parsed
                rw [List.map_cons, parse_eq_ok_iff.mp first, ih.mp rest]
      · intro texts
        cases names with
        | nil => contradiction
        | cons name names =>
            obtain ⟨head, tail⟩ := List.cons.inj texts
            rw [parse_eq_ok_iff.mpr head, ih.mpr tail]
            rfl

end RuleName

/-! ## Alphabetical order -/

instance : Std.TransCmp compareNames :=
  inferInstanceAs (Std.TransCmp
    (compareLex (compareOn fun name : Text => name.map Char.toLower) compare))

theorem namesInOrder_iff {first second : Text} :
    namesInOrder first second = true ↔ compareNames first second ≠ .gt :=
  bne_iff_ne

theorem namesInOrder_trans {first second third : Text}
    (left : namesInOrder first second = true) (right : namesInOrder second third = true) :
    namesInOrder first third = true := by
  rw [namesInOrder_iff, ne_eq, ← Ordering.isLE_iff_ne_gt] at left right ⊢
  exact Std.TransCmp.isLE_trans left right

/-- Names that are neither before nor after one another are the same. -/
instance : Std.LawfulEqCmp compareNames where
  compare_self := Std.ReflCmp.compare_self
  eq_of_compare same := Std.LawfulEqCmp.eq_of_compare (Ordering.then_eq_eq.mp same).2

/-! ## Sorting names -/

theorem perm_sortNames (names : List Text) : (sortNames names).Perm names :=
  perm_sortBy names

theorem pairwise_sortNames (names : List Text) :
    (sortNames names).Pairwise fun first second => compareNames first second ≠ .gt :=
  pairwise_sortBy names

theorem sortNames_of_perm {first second : List Text} (permuted : first.Perm second) :
    sortNames first = sortNames second := by
  apply sortBy_of_perm permuted
  intro x _ y _ tied
  exact Std.LawfulEqCmp.eq_of_compare tied

/-- Sorting leaves exactly the sorted lists as they are. -/
theorem eq_sortNames_iff {names : List Text} :
    names = sortNames names ↔
      names.Pairwise fun first second => compareNames first second ≠ .gt := by
  constructor
  · intro unchanged
    rw [unchanged]
    exact pairwise_sortNames names
  · intro sorted
    apply Eq.symm
    apply List.mergeSort_of_pairwise
    simpa only [namesInOrder_iff] using sorted

/-! ## Alphabetical order and the bytes of names -/

/-- Names that differ in more than case are ordered by the bytes of their lower case. -/
theorem compareNames_of_lower_ne {first second : Text}
    (differ : first.map Char.toLower ≠ second.map Char.toLower) :
    compareNames first second =
      compare (Text.encode (first.map Char.toLower)) (Text.encode (second.map Char.toLower)) := by
  rw [Text.compare_encode, compareNames]
  cases side : compare (first.map Char.toLower) (second.map Char.toLower) with
  | lt => rfl
  | eq => exact absurd (Std.LawfulEqOrd.eq_of_compare side) differ
  | gt => rfl

/-- Names that differ in case only are ordered by their own bytes. -/
theorem compareNames_of_lower_eq {first second : Text}
    (same : first.map Char.toLower = second.map Char.toLower) :
    compareNames first second = compare (Text.encode first) (Text.encode second) := by
  rw [Text.compare_encode, compareNames, same, Std.compare_self, Ordering.eq_then]

namespace RuleName

/-- Alphabetical order of rule names, which is that of their texts. -/
def compare (first second : RuleName) : Ordering :=
  compareNames first.text second.text

instance : Std.TransCmp compare :=
  transCmp_on compareNames text

theorem text_injective : Function.Injective text := by
  rintro ⟨first, _⟩ ⟨second, _⟩ rfl
  rfl

instance : Std.LawfulEqCmp compare where
  compare_self := Std.ReflCmp.compare_self
  eq_of_compare same := text_injective (Std.LawfulEqCmp.eq_of_compare same)

/-- Sorting rule names sorts their texts. -/
theorem map_text_sortBy (names : List RuleName) :
    (sortBy compare names).map text = sortNames (names.map text) := by
  apply List.map_mergeSort
  intro first _ second _
  rfl

end RuleName

/-- Alphabetical order is a linear order on all texts.  It is the order of the bytes of the
names in lower case, refined by that of the bytes of the names themselves.  Rule names that are
sorted by it come out the same in whichever order they are given. -/
theorem alphabetical_order_is_linear :
    (∀ first second : Text, compareNames first second = .eq ↔ first = second) ∧
    (∀ first second : Text, compareNames second first = (compareNames first second).swap) ∧
    (∀ first second third : Text, compareNames first second ≠ .gt →
      compareNames second third ≠ .gt → compareNames first third ≠ .gt) ∧
    (∀ first second : Text, first.map Char.toLower ≠ second.map Char.toLower →
      compareNames first second =
        compare (Text.encode (first.map Char.toLower))
          (Text.encode (second.map Char.toLower))) ∧
    (∀ first second : Text, first.map Char.toLower = second.map Char.toLower →
      compareNames first second = compare (Text.encode first) (Text.encode second)) ∧
    (∀ names others : List RuleName, names.Perm others →
      sortBy RuleName.compare names = sortBy RuleName.compare others) ∧
    ∀ names : List RuleName,
      (sortBy RuleName.compare names).map RuleName.text = sortNames (names.map RuleName.text) := by
  refine ⟨?_, ?_, ?_, ?_, ?_, ?_, RuleName.map_text_sortBy⟩
  · intro first second
    exact Std.LawfulEqCmp.compare_eq_iff_eq
  · intro first second
    exact Std.OrientedCmp.eq_swap
  · intro first second third
    exact Std.TransCmp.le_trans
  · intro first second
    exact compareNames_of_lower_ne
  · intro first second
    exact compareNames_of_lower_eq
  · intro names others permuted
    apply sortBy_of_perm permuted
    intro first _ second _ tied
    exact Std.LawfulEqCmp.eq_of_compare tied

/-- Two names that differ in case only, before a third. -/
theorem alphabetical_order_of_three_names :
    let capital : RuleName := ⟨"reportA", by decide⟩
    let small : RuleName := ⟨"reporta", by decide⟩
    let later : RuleName := ⟨"reportAc", by decide⟩
    compareNames capital.text later.text ≠ .gt ∧
      compareNames small.text later.text = .lt ∧ compareNames capital.text small.text = .lt ∧
      sortBy RuleName.compare [later, small, capital] =
        sortBy RuleName.compare [small, later, capital] := by
  intro capital small later
  rcases alphabetical_order_is_linear with ⟨-, -, trans, byLower, byCase, sorted, -⟩
  have below : compareNames small.text later.text = .lt := by
    rw [byLower _ _ (by decide)]
    decide
  have tie : compareNames capital.text small.text = .lt := by
    rw [byCase _ _ (by decide)]
    decide
  refine ⟨trans _ small.text _ ?_ ?_, below, tie, sorted _ _ (.swap _ _ _)⟩
  · simp [tie]
  · simp [below]

end GoldenCheck
