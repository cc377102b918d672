import GoldenCheck.Proofs.Lint.RuleList

/-!
# The order of rules

A list of rules is out of order if some two of its entries are, which the linter sees from
the neighbours alone.  It then advises the sorted list.  That list has the same entries,
depends on nothing else, and is found again, in order, in the comment that is spelled with
it.  If nothing is said about order or duplicates, the rules are strictly ascending.
-/

namespace GoldenCheck

open GoldenCheck.Text (fold isBlank)

/-! ## Rules as entries -/

/-- No white space lies among the ASCII letters. -/
theorem blankRanges_outside_letters :
    ∀ range ∈ Text.blankRanges, range.2 < 0x41 ∨ 0x7a < range.1 := by
  decide

theorem isBlank_of_isAlpha {c : Char} (letter : c.isAlpha = true) : isBlank c = false := by
  have range : (0x61 ≤ c.toNat ∧ c.toNat ≤ 0x7a) ∨ (0x41 ≤ c.toNat ∧ c.toNat ≤ 0x5a) := by
    have bounds := isRuleLetter_iff.mpr letter
    simpa [isRuleLetter, Char.le_def, UInt32.le_iff_toNat_le] using bounds
  apply Bool.eq_false_iff.mpr
  intro blank
  rcases Text.exists_range_of_isBlank blank with ⟨blanks, member, lower, upper⟩
  have outside := blankRanges_outside_letters blanks member
  omega

namespace SpellsRule

variable {code : Text}

theorem isAlpha_of_mem (isRule : SpellsRule code) {c : Char} (member : c ∈ code) :
    c.isAlpha = true := by
  rcases isRule with ⟨letters, rfl, -, alpha⟩
  rcases List.mem_append.mp member with inWord | inLetters
  · have word : "report".toList.all Char.isAlpha = true := by decide
    exact List.all_eq_true.mp word c inWord
  · exact alpha c inLetters

theorem not_mem (isRule : SpellsRule code) {c : Char} (sign : c.isAlpha = false) : c ∉ code := by
  intro member
  rw [isRule.isAlpha_of_mem member] at sign
  contradiction

theorem tight (isRule : SpellsRule code) : Text.Tight code where
  head _ first := isBlank_of_isAlpha (isRule.isAlpha_of_mem (List.mem_of_head? first))
  last _ last := isBlank_of_isAlpha (isRule.isAlpha_of_mem (List.mem_of_getLast? last))

theorem ne_nil (isRule : SpellsRule code) : code ≠ [] := by
  rintro rfl
  exact not_isRuleName_nil (isRuleName_iff.mpr isRule)

end SpellsRule

namespace Comment

/-- A list of rules is found again in the comment that is spelled with it. -/
theorem exists_find_spell {tool written : Text} {codes : List Text}
    (folded : written.map fold = tool.map fold) (rules : ∀ code ∈ codes, SpellsRule code) :
    ∃ found, find tool (spell written codes) = some found ∧ found.codes = codes := by
  have without {sign : Char} (noLetter : sign.isAlpha = false) : ∀ code ∈ codes, sign ∉ code :=
    fun code listed => (rules code listed).not_mem noLetter
  have occurs := occurs_spell folded (without (by decide)) (without (by decide)) [] []
  rw [List.nil_append, List.append_nil] at occurs
  refine ⟨_, find_eq_some_iff.mpr ⟨[], _, ⟨occurs, fun _ _ _ => Nat.zero_le _⟩, rfl⟩, ?_⟩
  apply entries_commaList
  · intro code listed
    exact (rules code listed).tight
  · exact without (by decide)
  · rintro rfl
    exact (rules [] List.mem_cons_self).ne_nil rfl

/-! ## Lists out of order -/

/-- Some entry stands before one that it should follow. -/
def OutOfOrder (codes : List Text) : Prop :=
  ∃ (earlier later : Nat) (first second : Text), earlier < later ∧
    codes[earlier]? = some first ∧ codes[later]? = some second ∧
    compareNames first second = .gt

theorem outOfOrder_iff {codes : List Text} :
    OutOfOrder codes ↔
      ¬codes.Pairwise fun first second => compareNames first second ≠ .gt := by
  rw [List.pairwise_iff_getElem]
  constructor
  · rintro ⟨earlier, later, first, second, before, isFirst, isSecond, above⟩ sorted
    rcases List.getElem?_eq_some_iff.mp isFirst with ⟨inside, rfl⟩
    rcases List.getElem?_eq_some_iff.mp isSecond with ⟨insideToo, rfl⟩
    exact sorted earlier later inside insideToo before above
  · intro unsorted
    push Not at unsorted
    rcases unsorted with ⟨earlier, later, inside, insideToo, before, above⟩
    exact ⟨earlier, later, _, _, before, List.getElem?_eq_getElem inside,
      List.getElem?_eq_getElem insideToo, above⟩

/-- What neighbours show is what all entries show. -/
theorem isSorted_iff_not_outOfOrder {comment : Comment} :
    comment.isSorted = true ↔ ¬OutOfOrder comment.codes := by
  rw [isSorted_iff, outOfOrder_iff, not_not]

/-- The entries in the order that is advised. -/
def advisedCodes (comment : Comment) : List Text :=
  sortNames comment.codes

theorem outOfOrder_iff_ne_advisedCodes {comment : Comment} :
    OutOfOrder comment.codes ↔ comment.codes ≠ comment.advisedCodes := by
  rw [outOfOrder_iff, ← eq_sortNames_iff, advisedCodes]

/-- Distinct names that are in order are strictly ascending. -/
theorem pairwise_lt_of_nodup {codes : List Text} (distinct : codes.Nodup)
    (sorted : codes.Pairwise fun first second => compareNames first second ≠ .gt) :
    codes.Pairwise fun first second => compareNames first second = .lt := by
  apply (distinct.and sorted).imp
  rintro first second ⟨different, ordered⟩
  cases side : compareNames first second with
  | lt => rfl
  | eq => exact absurd (Std.LawfulEqCmp.eq_of_compare side) different
  | gt => exact absurd side ordered

end Comment

/-! ## The advice of the linter -/

namespace Lint

/-- What is said about a list of rules that is out of order. -/
def orderAdvice (comment : Comment) : Finding :=
  (.unsortedRuleIds,
    Text.cat ["Rules are not sorted, expected ",
      Text.cite (Text.commaList comment.advisedCodes)])

theorem orderFindings_of_ruleNames {comment : Comment} {names : List RuleName}
    (parsed : comment.ruleNames = .ok names) :
    orderFindings .alphabetical comment =
      if comment.isSorted = true then [] else [orderAdvice comment] := by
  rw [orderFindings, parsed]
  cases sorted : comment.isSorted with
  | true => simp
  | false => simp [orderAdvice, Comment.advisedCodes, (Comment.ruleNames_eq_ok_iff.mp parsed).2]

/-- The problems of one kind with the rules of a comment that lists rules. -/
theorem filter_kind_ruleProblemsAt {fixture : Fixture} {number : Nat} {line : Fixture.Line}
    {comment : Comment} (member : (number, line, comment) ∈ fixture.comments)
    {names : List RuleName} (parsed : comment.ruleNames = .ok names) (policy : Policy)
    (kind : Problem.Kind) :
    (ruleProblemsAt policy fixture number).filter (fun problem => problem.kind = kind) =
      place fixture.path number
        ((if .invalidRuleId = kind then comment.codes.filterMap (entryFinding? comment) else []) ++
          (if .duplicateRuleId = kind then comment.duplicates.map duplicateFinding else []) ++
          (if .unsortedRuleIds = kind then orderFindings policy.ruleOrder comment else [])) := by
  rcases Comment.exists_ruleNames_eq_ok_iff.mp ⟨names, parsed⟩ with ⟨nonempty, rules⟩
  rw [ruleProblemsAt_of_mem member, filter_kind_place fun reported => reported = kind,
    filter_kind_ruleFindings (Comment.not_isEmpty_of_rules nonempty rules)]

/-- Where rules must be sorted, a comment that lists rules gets one problem about their
order if some two of them are out of order, that is if sorting changes the list, and none
else.  The problem advises the same rules in ascending order.  The advice is the same for
all orders of the rules; in a comment that is spelled with it, for a tool in any case, the
advised rules are found in order.  If neither duplicates nor the order are a problem, the
rules are strictly ascending. -/
theorem order_advice_sorts_rules {fixture : Fixture} {number : Nat} {line : Fixture.Line}
    {comment : Comment} (member : (number, line, comment) ∈ fixture.comments)
    {policy : Policy} (alphabetical : policy.ruleOrder = .alphabetical)
    {names : List RuleName} (parsed : comment.ruleNames = .ok names) :
    let reported (kind : Problem.Kind) : List Problem :=
      (ruleProblemsAt policy fixture number).filter fun problem => problem.kind = kind
    (Comment.OutOfOrder comment.codes →
      reported .unsortedRuleIds =
        [⟨fixture.path, number, .unsortedRuleIds,
          Text.cat ["Rules are not sorted, expected ",
            Text.cite (Text.commaList comment.advisedCodes)]⟩]) ∧
      (¬Comment.OutOfOrder comment.codes → reported .unsortedRuleIds = []) ∧
      (Comment.OutOfOrder comment.codes ↔ comment.codes ≠ sortNames comment.codes) ∧
      comment.advisedCodes.Perm comment.codes ∧
      (comment.advisedCodes.Pairwise fun first second => compareNames first second ≠ .gt) ∧
      (∀ other : Comment, other.codes.Perm comment.codes →
        other.advisedCodes = comment.advisedCodes) ∧
      (∀ tool written : Text, written.map fold = tool.map fold →
        ∃ found, Comment.find tool (Comment.spell written comment.advisedCodes) = some found ∧
          found.codes = comment.advisedCodes ∧ found.isSorted = true) ∧
      (reported .duplicateRuleId = [] → reported .unsortedRuleIds = [] →
        comment.codes.Pairwise fun first second => compareNames first second = .lt) := by
  intro reported
  rcases Comment.exists_ruleNames_eq_ok_iff.mp ⟨names, parsed⟩ with ⟨nonempty, rules⟩
  have unsorted : reported .unsortedRuleIds =
      place fixture.path number (if comment.isSorted = true then [] else [orderAdvice comment]) := by
    dsimp only [reported]
    rw [filter_kind_ruleProblemsAt member parsed, alphabetical, orderFindings_of_ruleNames parsed]
    simp
  have duplicated : reported .duplicateRuleId =
      place fixture.path number (comment.duplicates.map duplicateFinding) := by
    dsimp only [reported]
    rw [filter_kind_ruleProblemsAt member parsed]
    simp
  have permuted : comment.advisedCodes.Perm comment.codes := perm_sortNames comment.codes
  refine ⟨?_, ?_, Comment.outOfOrder_iff_ne_advisedCodes, permuted,
    pairwise_sortNames comment.codes, fun other => sortNames_of_perm, ?_, ?_⟩
  · intro outOfOrder
    have notSorted := mt Comment.isSorted_iff_not_outOfOrder.mp (not_not.mpr outOfOrder)
    rw [unsorted, if_neg notSorted]
    rfl
  · intro inOrder
    rw [unsorted, if_pos (Comment.isSorted_iff_not_outOfOrder.mpr inOrder)]
    rfl
  · intro tool written folded
    have advisedRules : ∀ code ∈ comment.advisedCodes, SpellsRule code := fun code advised =>
      rules code (permuted.mem_iff.mp advised)
    rcases Comment.exists_find_spell folded advisedRules with ⟨found, again, codes⟩
    refine ⟨found, again, codes, ?_⟩
    rw [Comment.isSorted_iff, codes]
    exact pairwise_sortNames comment.codes
  · intro noDuplicate noUnsorted
    rw [duplicated, place_eq_nil_iff, List.map_eq_nil_iff] at noDuplicate
    rw [unsorted, place_eq_nil_iff] at noUnsorted
    apply Comment.pairwise_lt_of_nodup
    · apply (duplicates_eq_nil_iff_of_rules ?_).mp noDuplicate
      intro code listed
      exact isRuleName_iff.mpr (rules code listed)
    · apply Comment.isSorted_iff.mp
      by_contra notSorted
      rw [if_neg notSorted] at noUnsorted
      contradiction

/-- Rules that differ in case only, among them one that is named twice. -/
theorem order_advice_on_mixed_case :
    let body : Text := "x  # PyRight: ignore[reportB, reporta, reportA, reportB]"
    let fixture := Fixture.parse (Path.ofText "a.py") "pyright" body
    let line := Fixture.Line.parse "pyright" body .none
    let comment : Comment :=
      ⟨"PyRight", "reportB, reporta, reportA, reportB",
        "# PyRight: ignore[reportB, reporta, reportA, reportB]", 3⟩
    let policy : Policy := ⟨.optional, .alphabetical, false⟩
    let advised : List Text := ["reportA", "reporta", "reportB", "reportB"]
    (1, line, comment) ∈ fixture.comments ∧ (∃ names, comment.ruleNames = .ok names) ∧
      Comment.OutOfOrder comment.codes ∧ comment.advisedCodes = advised ∧
      (ruleProblemsAt policy fixture 1).filter (fun problem => problem.kind = .unsortedRuleIds) =
        [⟨Path.ofText "a.py", 1, .unsortedRuleIds,
          "Rules are not sorted, expected `reportA, reporta, reportB, reportB`"⟩] := by
  intro body fixture line comment policy advised
  have member : (1, line, comment) ∈ fixture.comments := by decide +kernel
  have codes : comment.codes = (["reportB", "reporta", "reportA", "reportB"] : List Text) := by
    decide +kernel
  have rules : comment.codes ≠ [] ∧ ∀ code ∈ comment.codes, SpellsRule code := by
    rw [codes]
    decide
  have outOfOrder : Comment.OutOfOrder comment.codes := by
    rw [codes]
    exact ⟨0, 1, "reportB", "reporta", by decide, rfl, rfl, by decide⟩
  have isAdvised : comment.advisedCodes = advised := by
    have permuted : comment.codes.Perm advised := by
      rw [codes]
      decide
    have sorted : advised.Pairwise fun first second => compareNames first second ≠ .gt := by
      decide
    exact (sortNames_of_perm permuted).trans (eq_sortNames_iff.mpr sorted).symm
  rcases Comment.exists_ruleNames_eq_ok_iff.mpr rules with ⟨names, parsed⟩
  have alphabetical : policy.ruleOrder = .alphabetical := rfl
  have message : Text.cat ["Rules are not sorted, expected ", Text.cite (Text.commaList advised)] =
      "Rules are not sorted, expected `reportA, reporta, reportB, reportB`".toList := by
    decide +kernel
  have reported := (order_advice_sorts_rules member alphabetical parsed).1 outOfOrder
  rw [isAdvised, message] at reported
  exact ⟨member, ⟨names, parsed⟩, outOfOrder, isAdvised, reported⟩

end Lint

end GoldenCheck
