import GoldenCheck.Lint
import Mathlib.Data.List.Basic

/-!
# Stricter policies

A policy only decides which kinds of problems are reported.  No message, place or
order depends on it, and no check that it asks for keeps another from reporting.  So
the problems under a policy are those under a stricter one, less the kinds that it
does not ask for.  The checks are taken in turn; the report follows because leaving
out kinds does not touch the places that findings are given.
-/

namespace GoldenCheck.Lint

/-! ## Policies and kinds -/

/-- A policy asks for nothing that another does not ask for too. -/
structure Policy.Within (lenient strict : Policy) : Prop where
  spacing : lenient.strictSpacing = true → strict.strictSpacing = true
  order : lenient.ruleOrder = .any ∨ lenient.ruleOrder = strict.ruleOrder
  header : lenient.header = .optional ∨ lenient.header = strict.header

/-- Whether a policy asks for a kind of problem.  Most kinds are always reported. -/
def Policy.enables (policy : Policy) : Problem.Kind → Bool
  | .nonCanonicalSpacing => policy.strictSpacing
  | .missingTwoSpaceGap => policy.strictSpacing
  | .unsortedRuleIds => policy.ruleOrder = .alphabetical
  | .missingHeader => policy.header = .required
  | .unexpectedHeader => policy.header = .forbidden
  | _ => true

/-- The findings of the kinds that a policy asks for. -/
def Policy.keep (policy : Policy) (findings : List Finding) : List Finding :=
  findings.filter fun finding => policy.enables finding.1

namespace Policy

theorem keep_append (policy : Policy) (first second : List Finding) :
    policy.keep (first ++ second) = policy.keep first ++ policy.keep second :=
  List.filter_append ..

theorem keep_eq_self {policy : Policy} {findings : List Finding}
    (enabled : ∀ finding ∈ findings, policy.enables finding.1 = true) :
    policy.keep findings = findings :=
  List.filter_eq_self.mpr enabled

theorem keep_eq_nil {policy : Policy} {findings : List Finding}
    (disabled : ∀ finding ∈ findings, policy.enables finding.1 = false) :
    policy.keep findings = [] := by
  apply List.filter_eq_nil_iff.mpr
  intro finding member
  simp [disabled finding member]

end Policy

/-! ## The kinds of each check -/

/-- Most checks have one thing to say, or nothing. -/
theorem eq_of_mem_ite_nil {condition : Prop} [Decidable condition] {finding single : Finding}
    (member : finding ∈ if condition then [] else [single]) : finding = single := by
  split at member
  · contradiction
  · exact List.mem_singleton.mp member

theorem kind_of_mem_headerPresence {asked : HeaderPolicy} {header? : Option Fixture.Header}
    {finding : Finding} (member : finding ∈ headerPresence asked header?) :
    finding.1 = .missingHeader ∨ finding.1 = .unexpectedHeader := by
  unfold headerPresence at member
  split at member
  · rw [List.mem_singleton.mp member]
    exact .inl rfl
  · rw [List.mem_singleton.mp member]
    exact .inr rfl
  · contradiction

theorem kind_of_mem_headerNaming {path : Path} {header? : Option Fixture.Header}
    {finding : Finding} (member : finding ∈ headerNaming path header?) :
    finding.1 = .headerPathMismatch := by
  cases header? with
  | none => contradiction
  | some header =>
      rw [headerNaming] at member
      rw [eq_of_mem_ite_nil member]

theorem kind_of_entryFinding? {comment : Comment} {code : Text} {finding : Finding}
    (found : entryFinding? comment code = some finding) : finding.1 = .invalidRuleId := by
  rw [entryFinding?] at found
  split at found
  · contradiction
  · rw [← Option.some.inj found]

theorem kind_of_mem_orderFindings {order : RuleOrder} {comment : Comment} {finding : Finding}
    (member : finding ∈ orderFindings order comment) :
    order = .alphabetical ∧ finding.1 = .unsortedRuleIds := by
  rw [orderFindings] at member
  split at member
  · rename_i asked
    split at member
    · rw [List.mem_singleton.mp member]
      exact ⟨asked.1, rfl⟩
    · contradiction
  · contradiction

theorem kind_of_mem_spellingFindings {comment : Comment} {finding : Finding}
    (member : finding ∈ spellingFindings comment) : finding.1 = .nonCanonicalSpacing := by
  rw [spellingFindings] at member
  rw [eq_of_mem_ite_nil member]

theorem kind_of_mem_gapFindings {line : Fixture.Line} {finding : Finding}
    (member : finding ∈ gapFindings line) : finding.1 = .missingTwoSpaceGap := by
  rw [gapFindings] at member
  rw [eq_of_mem_ite_nil member]

/-! ## One check after the other -/

/-- Entries and repeated rules are reported under every policy. -/
theorem keep_entries_and_duplicates (policy : Policy) (comment : Comment) :
    policy.keep (comment.codes.filterMap (entryFinding? comment) ++
        comment.duplicates.map duplicateFinding) =
      comment.codes.filterMap (entryFinding? comment) ++
        comment.duplicates.map duplicateFinding := by
  apply Policy.keep_eq_self
  intro finding member
  rcases List.mem_append.mp member with member | member
  · rcases List.mem_filterMap.mp member with ⟨code, -, found⟩
    rw [kind_of_entryFinding? found]
    rfl
  · rcases List.mem_map.mp member with ⟨code, -, rfl⟩
    rfl

namespace Policy.Within

variable {lenient strict : Policy}

theorem keep_headerFindings (within : lenient.Within strict) (fixture : Fixture) :
    lenient.keep (headerFindings strict fixture) = headerFindings lenient fixture := by
  have presence : lenient.keep (headerPresence strict.header fixture.header) =
      headerPresence lenient.header fixture.header := by
    rcases lenient with ⟨header, order, spacing⟩
    rcases strict with ⟨strictHeader, strictOrder, strictSpacing⟩
    rcases within.header with rfl | rfl
    · cases strictHeader <;> cases fixture.header <;> rfl
    · cases header <;> cases fixture.header <;> rfl
  have naming : lenient.keep (headerNaming fixture.path fixture.header) =
      headerNaming fixture.path fixture.header := by
    apply keep_eq_self
    intro finding member
    rw [kind_of_mem_headerNaming member]
    rfl
  rw [headerFindings, headerFindings, keep_append, presence, naming]

theorem keep_orderFindings (within : lenient.Within strict) (comment : Comment) :
    lenient.keep (orderFindings strict.ruleOrder comment) =
      orderFindings lenient.ruleOrder comment := by
  rcases within.order with any | same
  · have nothing : orderFindings lenient.ruleOrder comment = [] := by simp [orderFindings, any]
    rw [nothing]
    apply keep_eq_nil
    intro finding member
    simp [(kind_of_mem_orderFindings member).2, enables, any]
  · rw [← same]
    apply keep_eq_self
    intro finding member
    rcases kind_of_mem_orderFindings member with ⟨alphabetical, kind⟩
    simp [kind, enables, alphabetical]

theorem keep_ruleFindings (within : lenient.Within strict) (comment : Comment) :
    lenient.keep (ruleFindings strict.ruleOrder comment) =
      ruleFindings lenient.ruleOrder comment := by
  rw [ruleFindings, ruleFindings]
  split
  -- An empty list is reported under every policy, and under none anything beside it.
  · rfl
  · rw [keep_append, keep_entries_and_duplicates, within.keep_orderFindings]

theorem keep_spacingFindings (within : lenient.Within strict) (line : Fixture.Line)
    (comment : Comment) :
    lenient.keep (spacingFindings strict.strictSpacing line comment) =
      spacingFindings lenient.strictSpacing line comment := by
  -- Both kinds hang on the one switch, whichever way it is set.
  have enabled : ∀ finding ∈ spellingFindings comment ++ gapFindings line,
      lenient.enables finding.1 = lenient.strictSpacing := by
    intro finding member
    rcases List.mem_append.mp member with member | member
    · rw [kind_of_mem_spellingFindings member]
      rfl
    · rw [kind_of_mem_gapFindings member]
      rfl
  cases asked : lenient.strictSpacing with
  | true =>
      rw [within.spacing asked]
      apply keep_eq_self
      intro finding member
      rw [enabled finding member, asked]
  | false =>
      apply keep_eq_nil
      intro finding member
      rw [spacingFindings] at member
      split at member
      · rw [enabled finding member, asked]
      · contradiction

theorem keep_lineFindings (within : lenient.Within strict) (line : Fixture.Line)
    (comment : Comment) :
    lenient.keep (lineFindings strict line comment) = lineFindings lenient line comment := by
  rw [lineFindings, lineFindings, keep_append, within.keep_ruleFindings,
    within.keep_spacingFindings]

end Policy.Within

/-! ## The whole fixture -/

theorem filter_kind_place (keep : Problem.Kind → Bool) (path : Path) (number : Nat)
    (findings : List Finding) :
    (place path number findings).filter (fun problem => keep problem.kind) =
      place path number (findings.filter fun finding => keep finding.1) :=
  List.filter_map ..

theorem filter_place (policy : Policy) (path : Path) (number : Nat) (findings : List Finding) :
    (place path number findings).filter (fun problem => policy.enables problem.kind) =
      place path number (policy.keep findings) :=
  filter_kind_place policy.enables path number findings

/-- The problems of a fixture under a policy are those under a stricter one whose kinds
the policy asks for, in the same order, at the same places and with the same messages. -/
theorem lenient_policy_only_filters {lenient strict : Policy} (within : lenient.Within strict)
    (fixture : Fixture) :
    problems lenient fixture =
      (problems strict fixture).filter fun problem => lenient.enables problem.kind := by
  rw [problems, problems, List.filter_append, List.filter_flatMap, filter_place,
    within.keep_headerFindings]
  congr 1
  apply List.flatMap_congr
  rintro ⟨number, line, comment⟩ -
  rw [filter_place, within.keep_lineFindings]

/-- A fixture without a header, with rules out of order and a crowded comment.  The
stricter policy has four complaints, and the other keeps the one about the order. -/
theorem lenient_policy_keeps_order :
    let lenient : Policy := ⟨.optional, .alphabetical, false⟩
    let strict : Policy := ⟨.required, .alphabetical, true⟩
    let fixture := Fixture.parse (Path.ofText "a.py") "pyright"
      "x #pyright:ignore[reportB,reportA]"
    lenient.Within strict ∧
      (problems strict fixture).map Problem.kind =
        [.missingHeader, .unsortedRuleIds, .nonCanonicalSpacing, .missingTwoSpaceGap] ∧
      problems lenient fixture =
        (problems strict fixture).filter (fun problem => lenient.enables problem.kind) ∧
      (problems lenient fixture).map Problem.kind = [.unsortedRuleIds] := by
  intro lenient strict fixture
  have within : lenient.Within strict := ⟨nofun, .inr rfl, .inl rfl⟩
  have complaints : (problems strict fixture).map Problem.kind =
      [.missingHeader, .unsortedRuleIds, .nonCanonicalSpacing, .missingTwoSpaceGap] := by
    decide +kernel
  have filtered := lenient_policy_only_filters within fixture
  refine ⟨within, complaints, filtered, ?_⟩
  decide +kernel

end GoldenCheck.Lint
