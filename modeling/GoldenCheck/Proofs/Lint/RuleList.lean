import GoldenCheck.Proofs.Comment.Canonical
import GoldenCheck.Proofs.Fixture.Comments
import GoldenCheck.Proofs.Lint.Acceptance
import GoldenCheck.Proofs.Lint.Strictness

/-!
# Rule lists and their problems

A rule list is judged twice: it is read as a list of rules, which stops at the first entry
that is none, and the linter goes through all its entries.  The two agree.  What the linter
says about the rules of a comment is what it says about rules at the line of the comment,
since no line has two comments, and neither the header nor the spacing of a line gives a
problem of these kinds.
-/

namespace GoldenCheck

/-! ## Reading a rule list -/

namespace Comment

theorem isEmpty_iff_blank {comment : Comment} :
    comment.isEmpty = true ↔ ∀ code ∈ comment.codes, Text.isBlankText code = true := by
  rw [isEmpty_iff]
  apply forall₂_congr
  intro code member
  exact (isBlankText_iff_of_mem_codes member).symm

/-- The error that says nothing but that a rule is missing. -/
theorem ruleNames_eq_empty_iff {comment : Comment} :
    comment.ruleNames = .error .empty ↔
      comment.codes = [] ∨
        ∃ code, FirstOffence comment.codes code ∧ Text.isBlankText code = true := by
  rw [ruleNames_eq_error_iff, and_iff_left rfl]
  apply or_congr_right
  apply exists_congr
  intro code
  apply and_congr_right
  intro first
  rw [isBlankText_iff_of_mem_codes first.mem, RuleError.about]
  by_cases empty : code = []
  · simp [empty]
  · simp [empty]

/-- The error that names an entry. -/
theorem ruleNames_eq_malformed_iff {comment : Comment} {name : Text} :
    comment.ruleNames = .error (.malformed name) ↔
      FirstOffence comment.codes name ∧ Text.isBlankText name = false := by
  rw [ruleNames_eq_error_iff]
  constructor
  · rintro (⟨-, differs⟩ | ⟨code, first, named⟩)
    · contradiction
    · rw [RuleError.about] at named
      split at named
      · contradiction
      · rename_i visible
        obtain rfl := RuleError.malformed.inj named
        refine ⟨first, ?_⟩
        rw [← Bool.not_eq_true, isBlankText_iff_of_mem_codes first.mem]
        exact visible
  · rintro ⟨first, visible⟩
    rw [← Bool.not_eq_true, isBlankText_iff_of_mem_codes first.mem] at visible
    exact .inr ⟨name, first, (if_neg visible).symm⟩

end Comment

/-! ## Problems with rules -/

/-- Whether a kind of problem is one of a rule list. -/
def Problem.Kind.concernsRules : Problem.Kind → Bool
  | .emptyRuleList => true
  | .invalidRuleId => true
  | .duplicateRuleId => true
  | .unsortedRuleIds => true
  | _ => false

namespace Lint

/-- Whether a problem is one with the rules at a line. -/
def isRuleProblemAt (number : Nat) (problem : Problem) : Bool :=
  problem.line == number && problem.kind.concernsRules

/-- The problems with rules that are reported at a line. -/
def ruleProblemsAt (policy : Policy) (fixture : Fixture) (number : Nat) : List Problem :=
  (problems policy fixture).filter (isRuleProblemAt number)

/-! ## Kinds of findings -/

theorem concernsRules_of_mem_ruleFindings {order : RuleOrder} {comment : Comment}
    {finding : Finding} (member : finding ∈ ruleFindings order comment) :
    finding.1.concernsRules = true := by
  rw [ruleFindings] at member
  split at member
  · rw [List.mem_singleton.mp member]
    rfl
  · rcases List.mem_append.mp member with member | member
    · rcases List.mem_append.mp member with member | member
      · obtain ⟨code, -, found⟩ := List.mem_filterMap.mp member
        rw [kind_of_entryFinding? found]
        rfl
      · obtain ⟨code, -, rfl⟩ := List.mem_map.mp member
        rfl
    · rw [(kind_of_mem_orderFindings member).2]
      rfl

theorem concernsRules_of_mem_spacingFindings {strict : Bool} {line : Fixture.Line}
    {comment : Comment} {finding : Finding}
    (member : finding ∈ spacingFindings strict line comment) :
    finding.1.concernsRules = false := by
  rw [spacingFindings] at member
  split at member
  · rcases List.mem_append.mp member with member | member
    · rw [kind_of_mem_spellingFindings member]
      rfl
    · rw [kind_of_mem_gapFindings member]
      rfl
  · contradiction

theorem concernsRules_of_mem_headerFindings {policy : Policy} {fixture : Fixture}
    {finding : Finding} (member : finding ∈ headerFindings policy fixture) :
    finding.1.concernsRules = false := by
  rcases List.mem_append.mp member with member | member
  · rcases kind_of_mem_headerPresence member with kind | kind
    · rw [kind]
      rfl
    · rw [kind]
      rfl
  · rw [kind_of_mem_headerNaming member]
    rfl

/-- Of the findings at a line with a comment, those on rules are the findings on the rules
of the comment. -/
theorem filter_concernsRules_lineFindings (policy : Policy) (line : Fixture.Line)
    (comment : Comment) :
    (lineFindings policy line comment).filter (fun finding => finding.1.concernsRules) =
      ruleFindings policy.ruleOrder comment := by
  have kept : (ruleFindings policy.ruleOrder comment).filter
      (fun finding => finding.1.concernsRules) = ruleFindings policy.ruleOrder comment :=
    List.filter_eq_self.mpr fun finding => concernsRules_of_mem_ruleFindings
  have dropped : (spacingFindings policy.strictSpacing line comment).filter
      (fun finding => finding.1.concernsRules) = [] := by
    apply List.filter_eq_nil_iff.mpr
    intro finding member
    simp [concernsRules_of_mem_spacingFindings member]
  rw [lineFindings, List.filter_append, kept, dropped, List.append_nil]

/-! ## The problems of one comment -/

theorem ruleProblems_place_self (path : Path) (number : Nat) (findings : List Finding) :
    (place path number findings).filter (isRuleProblemAt number) =
      place path number (findings.filter fun finding => finding.1.concernsRules) := by
  rw [place, List.filter_map]
  simp [Function.comp_def, place, isRuleProblemAt]

theorem ruleProblems_place_of_ne {number other : Nat} (elsewhere : other ≠ number) (path : Path)
    (findings : List Finding) :
    (place path other findings).filter (isRuleProblemAt number) = [] := by
  rw [place, List.filter_map]
  simp [Function.comp_def, isRuleProblemAt, elsewhere]

theorem flatMap_of_elsewhere_nil {α β : Type} {f : α → List β} {front back : List α} {entry : α}
    (before : ∀ other ∈ front, f other = []) (after : ∀ other ∈ back, f other = []) :
    (front ++ entry :: back).flatMap f = f entry := by
  rw [List.flatMap_append, List.flatMap_cons, List.flatMap_eq_nil_iff.mpr before,
    List.flatMap_eq_nil_iff.mpr after, List.nil_append, List.append_nil]

/-- The problems with rules at the line of a comment are the findings on its rules. -/
theorem ruleProblemsAt_of_mem {fixture : Fixture} {number : Nat} {line : Fixture.Line}
    {comment : Comment} (member : (number, line, comment) ∈ fixture.comments)
    (policy : Policy) :
    ruleProblemsAt policy fixture number =
      place fixture.path number (ruleFindings policy.ruleOrder comment) := by
  have noHeader : (place fixture.path 1 (headerFindings policy fixture)).filter
      (isRuleProblemAt number) = [] := by
    apply List.filter_eq_nil_iff.mpr
    intro problem placed
    obtain ⟨finding, found, rfl⟩ := List.mem_map.mp placed
    simp [isRuleProblemAt, concernsRules_of_mem_headerFindings found]
  -- Comments come in the order of their lines, so all others stand at other lines.
  rcases List.append_of_mem member with ⟨front, back, split⟩
  have ascending := fixture.pairwise_comments
  rw [split, List.pairwise_append, List.pairwise_cons] at ascending
  rcases ascending with ⟨-, ⟨after, -⟩, before⟩
  rw [ruleProblemsAt, problems, List.filter_append, noHeader, List.filter_flatMap, split,
    flatMap_of_elsewhere_nil, ruleProblems_place_self, filter_concernsRules_lineFindings]
  · rfl
  · intro other listed
    have earlier := before other listed _ List.mem_cons_self
    exact ruleProblems_place_of_ne (Nat.ne_of_lt earlier) _ _
  · intro other listed
    exact ruleProblems_place_of_ne (Nat.ne_of_gt (after other listed)) _ _

/-! ## Findings of one kind -/

theorem filter_kind_of_forall {findings : List Finding} {own : Problem.Kind}
    (same : ∀ finding ∈ findings, finding.1 = own) (kind : Problem.Kind) :
    findings.filter (fun finding => finding.1 = kind) = if own = kind then findings else [] := by
  split
  · rename_i asked
    apply List.filter_eq_self.mpr
    intro finding member
    simp [same finding member, asked]
  · rename_i other
    apply List.filter_eq_nil_iff.mpr
    intro finding member
    simp [same finding member, other]

/-- Each of the checks on a list that is not blank has a kind of its own. -/
theorem filter_kind_ruleFindings {comment : Comment} (visible : ¬comment.isEmpty = true)
    (order : RuleOrder) (kind : Problem.Kind) :
    (ruleFindings order comment).filter (fun finding => finding.1 = kind) =
      (if .invalidRuleId = kind then comment.codes.filterMap (entryFinding? comment) else []) ++
        (if .duplicateRuleId = kind then comment.duplicates.map duplicateFinding else []) ++
        (if .unsortedRuleIds = kind then orderFindings order comment else []) := by
  rw [ruleFindings, if_neg visible, List.filter_append, List.filter_append]
  congr 1
  · congr 1
    · apply filter_kind_of_forall
      intro finding member
      obtain ⟨code, -, found⟩ := List.mem_filterMap.mp member
      exact kind_of_entryFinding? found
    · apply filter_kind_of_forall
      intro finding member
      obtain ⟨code, -, rfl⟩ := List.mem_map.mp member
      rfl
  · apply filter_kind_of_forall
    intro finding member
    exact (kind_of_mem_orderFindings member).2

theorem isSome_entryFinding?_iff {comment : Comment} {code : Text} :
    (entryFinding? comment code).isSome = true ↔ ¬SpellsRule code := by
  rw [← isRuleName_iff, ← entryFinding?_eq_none_iff, ← Option.isNone_iff_eq_none]
  cases entryFinding? comment code <;> simp

/-- A list that is not blank has a finding for each entry that is no rule. -/
theorem countP_invalid_ruleFindings {comment : Comment} (visible : ¬comment.isEmpty = true)
    (order : RuleOrder) :
    (ruleFindings order comment).countP (fun finding => finding.1 = .invalidRuleId) =
      comment.codes.countP fun code => ¬SpellsRule code := by
  rw [List.countP_eq_length_filter, filter_kind_ruleFindings visible]
  simp only [↓reduceIte, reduceCtorEq, List.append_nil]
  rw [List.length_filterMap_eq_countP]
  apply List.countP_congr
  intro code _
  rw [isSome_entryFinding?_iff, decide_eq_true_eq]

/-- A list is found to be neither empty nor to hold an entry that is no rule exactly if it is
a list of rules. -/
theorem ruleFindings_valid_iff {comment : Comment} (order : RuleOrder) :
    (∀ finding ∈ ruleFindings order comment,
      finding.1 ≠ .emptyRuleList ∧ finding.1 ≠ .invalidRuleId) ↔
      comment.codes ≠ [] ∧ ∀ code ∈ comment.codes, SpellsRule code := by
  by_cases empty : comment.isEmpty = true
  · have found : (.emptyRuleList, Text.cat [Text.cite comment.raw, " suppresses no rules"]) ∈
        ruleFindings order comment := by simp [ruleFindings, empty]
    constructor
    · intro valid
      exact absurd rfl (valid _ found).1
    · rintro ⟨nonempty, rules⟩
      exact absurd empty (Comment.not_isEmpty_of_rules nonempty rules)
  · have nonempty : comment.codes ≠ [] := by
      intro noCodes
      exact empty (Comment.isEmpty_iff.mpr (by simp [noCodes]))
    have noEmpty : ∀ finding ∈ ruleFindings order comment, finding.1 ≠ .emptyRuleList := by
      simpa using filter_kind_ruleFindings empty order .emptyRuleList
    have invalid : (∀ finding ∈ ruleFindings order comment, finding.1 ≠ .invalidRuleId) ↔
        ∀ code ∈ comment.codes, SpellsRule code := by
      have zero := congrArg (· = 0) (countP_invalid_ruleFindings empty order)
      simpa [List.countP_eq_zero] using iff_of_eq zero
    rw [← invalid]
    constructor
    · intro valid
      exact ⟨nonempty, fun finding member => (valid finding member).2⟩
    · rintro ⟨-, valid⟩ finding member
      exact ⟨noEmpty finding member, valid finding member⟩

/-! ## Reading and linting agree -/

theorem countP_kind_place (path : Path) (number : Nat) (findings : List Finding)
    (kind : Problem.Kind) :
    (place path number findings).countP (fun problem => problem.kind = kind) =
      findings.countP fun finding => finding.1 = kind :=
  List.countP_map ..

/-- A comment of a fixture is read as a list of rules exactly if the linter finds its list
neither empty nor with an entry that is no rule.  The rules are then the entries, in their
order.  Otherwise the error is that of the first entry that is no rule: that it is empty, or
its name.  If some entry is not blank, there is a problem for each entry that is no rule;
if all are blank, the only problem with the rules is that the list is empty. -/
theorem rule_list_is_read_as_linted {fixture : Fixture} {number : Nat} {line : Fixture.Line}
    {comment : Comment} (member : (number, line, comment) ∈ fixture.comments)
    (policy : Policy) :
    ((∃ names, comment.ruleNames = .ok names) ↔
      ∀ problem ∈ ruleProblemsAt policy fixture number,
        problem.kind ≠ .emptyRuleList ∧ problem.kind ≠ .invalidRuleId) ∧
      (∀ names, comment.ruleNames = .ok names →
        names.map RuleName.text = comment.codes ∧ names ≠ []) ∧
      (comment.ruleNames = .error .empty ↔
        comment.codes = [] ∨
          ∃ code, Comment.FirstOffence comment.codes code ∧ Text.isBlankText code = true) ∧
      (∀ name, comment.ruleNames = .error (.malformed name) ↔
        Comment.FirstOffence comment.codes name ∧ Text.isBlankText name = false) ∧
      ((∃ code ∈ comment.codes, Text.isBlankText code = false) →
        (ruleProblemsAt policy fixture number).countP
            (fun problem => problem.kind = .invalidRuleId) =
          comment.codes.countP fun code => ¬SpellsRule code) ∧
      ((∀ code ∈ comment.codes, Text.isBlankText code = true) →
        ruleProblemsAt policy fixture number =
          [⟨fixture.path, number, .emptyRuleList,
            Text.cat [Text.cite comment.raw, " suppresses no rules"]⟩]) := by
  have reported := ruleProblemsAt_of_mem member policy
  rw [reported]
  refine ⟨?_, ?_, Comment.ruleNames_eq_empty_iff, fun name => Comment.ruleNames_eq_malformed_iff,
    ?_, ?_⟩
  · rw [Comment.exists_ruleNames_eq_ok_iff, ← ruleFindings_valid_iff policy.ruleOrder, place,
      List.forall_mem_map]
  · intro names parsed
    exact (Comment.ruleNames_eq_ok_iff.mp parsed).symm
  · rintro ⟨code, listed, solid⟩
    have visible : ¬comment.isEmpty = true := by
      intro empty
      rw [Comment.isEmpty_iff_blank.mp empty code listed] at solid
      contradiction
    rw [countP_kind_place, countP_invalid_ruleFindings visible]
  · intro blank
    rw [ruleFindings, if_pos (Comment.isEmpty_iff_blank.mpr blank)]
    rfl

/-- A list with two entries that are no rules, the second of them blank. -/
theorem rule_list_with_two_offences :
    let fixture := Fixture.parse (Path.ofText "a.py") "pyright"
      "x  # pyright: ignore[reportA, oops, ]"
    let line := Fixture.Line.parse "pyright" "x  # pyright: ignore[reportA, oops, ]" .none
    let comment : Comment :=
      ⟨"pyright", "reportA, oops, ", "# pyright: ignore[reportA, oops, ]", 3⟩
    let policy : Policy := ⟨.optional, .alphabetical, false⟩
    (1, line, comment) ∈ fixture.comments ∧
      comment.ruleNames = .error (.malformed "oops") ∧
      (ruleProblemsAt policy fixture 1).countP (fun problem => problem.kind = .invalidRuleId) =
        2 := by
  intro fixture line comment policy
  have member : (1, line, comment) ∈ fixture.comments := by decide +kernel
  have codes : comment.codes = (["reportA", "oops", ""] : List Text) := by decide +kernel
  rcases rule_list_is_read_as_linted member policy with ⟨-, -, -, malformed, counted, -⟩
  refine ⟨member, ?_, ?_⟩
  · rw [malformed, codes]
    refine ⟨⟨["reportA"], [""], rfl, ?_, by decide⟩, by decide⟩
    intro rule isFirst
    rw [List.mem_singleton.mp isFirst]
    decide
  · rw [counted ⟨"oops", by rw [codes]; decide, by decide⟩, codes]
    decide

end Lint

end GoldenCheck
