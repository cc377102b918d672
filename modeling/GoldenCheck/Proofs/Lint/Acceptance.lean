import GoldenCheck.Lint
import GoldenCheck.Proofs.Comment.Rules
import GoldenCheck.Proofs.Fixture.RoundTrip

/-!
# What the linter accepts

A fixture has no problem exactly if its header and its comments are what the
policy asks for, said without the linter's early returns.  An empty list hides no
other fault because its entries are no rules, blank entries hide no duplicate for
the same reason, and lists with entries that are no rules need no finding about
their order because each such entry has one.
-/

namespace GoldenCheck.Lint

/-! ## What a policy asks for -/

/-- A header is present or absent as the policy asks, and names the fixture. -/
structure HeaderAccepted (policy : Policy) (path : Path) (header? : Option Fixture.Header) :
    Prop where
  present : ∀ header, header? = some header →
    policy.header ≠ .forbidden ∧ header.names path = true
  absent : header? = none → policy.header ≠ .required

/-- A comment lists distinct rules, in order and in its usual spelling where the
policy asks for that. -/
structure CommentAccepted (policy : Policy) (line : Fixture.Line) (comment : Comment) :
    Prop where
  nonempty : comment.codes ≠ []
  rules : ∀ code ∈ comment.codes, SpellsRule code
  distinct : comment.codes.Nodup
  sorted : policy.ruleOrder = .alphabetical →
    comment.codes.Pairwise fun first second => compareNames first second ≠ .gt
  spaced : policy.strictSpacing = true →
    comment.raw = comment.canonical ∧ (line.statement = [] ∨ line.gap = [' ', ' '])

/-! ## The header -/

theorem headerPresence_eq_nil_iff {header : HeaderPolicy} {header? : Option Fixture.Header} :
    headerPresence header header? = [] ↔
      (header? = none → header ≠ .required) ∧ (header?.isSome = true → header ≠ .forbidden) := by
  cases header <;> cases header? <;> simp [headerPresence]

theorem headerNaming_eq_nil_iff {path : Path} {header? : Option Fixture.Header} :
    headerNaming path header? = [] ↔
      ∀ header, header? = some header → header.names path = true := by
  cases header? with
  | none => simp [headerNaming]
  | some header => simp [headerNaming]

theorem headerFindings_eq_nil_iff {policy : Policy} {fixture : Fixture} :
    headerFindings policy fixture = [] ↔ HeaderAccepted policy fixture.path fixture.header := by
  rw [headerFindings, List.append_eq_nil_iff, headerPresence_eq_nil_iff, headerNaming_eq_nil_iff]
  constructor
  · rintro ⟨⟨absent, allowed⟩, named⟩
    exact ⟨fun header found => ⟨allowed (by simp [found]), named header found⟩, absent⟩
  · rintro ⟨present, absent⟩
    refine ⟨⟨absent, ?_⟩, fun header found => (present header found).2⟩
    intro some?
    obtain ⟨header, found⟩ := Option.isSome_iff_exists.mp some?
    exact (present header found).1

/-! ## The rules of a comment -/

theorem entryFinding?_eq_none_iff {comment : Comment} {code : Text} :
    entryFinding? comment code = none ↔ isRuleName code = true := by
  rw [← RuleName.exists_parse_eq_ok_iff, entryFinding?]
  cases RuleName.parse code with
  | ok name => simp
  | error fault => simp

theorem entryFindings_eq_nil_iff {comment : Comment} :
    comment.codes.filterMap (entryFinding? comment) = [] ↔
      ∀ code ∈ comment.codes, isRuleName code = true := by
  simp only [List.filterMap_eq_nil_iff, entryFinding?_eq_none_iff]

/-- No rule is blank, so duplicates are looked for among all entries. -/
theorem duplicates_eq_nil_iff_of_rules {comment : Comment}
    (rules : ∀ code ∈ comment.codes, isRuleName code = true) :
    comment.duplicates = [] ↔ comment.codes.Nodup := by
  have visible : (comment.codes.filter fun code => !code.isEmpty) = comment.codes := by
    rw [List.filter_eq_self]
    intro code member
    have isRule := rules code member
    cases code with
    | nil => exact absurd isRule not_isRuleName_nil
    | cons c code => rfl
  rw [Comment.duplicates_eq_nil_iff, visible]

/-- In a list of rules every two entries that are out of order give a finding. -/
theorem orderFindings_eq_nil_iff_of_rules {order : RuleOrder} {comment : Comment}
    (nonempty : comment.codes ≠ [])
    (rules : ∀ code ∈ comment.codes, isRuleName code = true) :
    orderFindings order comment = [] ↔
      (order = .alphabetical →
        comment.codes.Pairwise fun first second => compareNames first second ≠ .gt) := by
  obtain ⟨names, parsed⟩ := Comment.exists_ruleNames_eq_ok_iff.mpr
    ⟨nonempty, fun code member => isRuleName_iff.mp (rules code member)⟩
  rw [← Comment.isSorted_iff, orderFindings, parsed]
  by_cases alphabetical : order = .alphabetical
  · cases sorted : comment.isSorted <;> simp [alphabetical]
  · simp [alphabetical]

theorem ruleFindings_eq_nil_iff {order : RuleOrder} {comment : Comment} :
    ruleFindings order comment = [] ↔
      comment.codes ≠ [] ∧ (∀ code ∈ comment.codes, isRuleName code = true) ∧
        comment.codes.Nodup ∧
        (order = .alphabetical →
          comment.codes.Pairwise fun first second => compareNames first second ≠ .gt) := by
  rw [ruleFindings]
  by_cases empty : comment.isEmpty = true
  · rw [if_pos empty]
    simp only [reduceCtorEq, false_iff]
    rintro ⟨nonempty, rules, -⟩
    exact Comment.not_isEmpty_of_rules nonempty
      (fun code member => isRuleName_iff.mp (rules code member)) empty
  · have nonempty : comment.codes ≠ [] := by
      intro noCodes
      exact empty (Comment.isEmpty_iff.mpr (by simp [noCodes]))
    rw [if_neg empty, List.append_eq_nil_iff, List.append_eq_nil_iff, List.map_eq_nil_iff,
      entryFindings_eq_nil_iff, and_assoc]
    constructor
    · rintro ⟨rules, distinct, ordered⟩
      exact ⟨nonempty, rules, (duplicates_eq_nil_iff_of_rules rules).mp distinct,
        (orderFindings_eq_nil_iff_of_rules nonempty rules).mp ordered⟩
    · rintro ⟨_, rules, distinct, ordered⟩
      exact ⟨rules, (duplicates_eq_nil_iff_of_rules rules).mpr distinct,
        (orderFindings_eq_nil_iff_of_rules nonempty rules).mpr ordered⟩

/-! ## The spacing of a comment -/

theorem spellingFindings_eq_nil_iff {comment : Comment} :
    spellingFindings comment = [] ↔ comment.raw = comment.canonical := by
  rw [spellingFindings, ← @beq_iff_eq Text, ← Comment.isCanonical]
  cases comment.isCanonical <;> simp

theorem gapFindings_eq_nil_iff {line : Fixture.Line} :
    gapFindings line = [] ↔ line.statement = [] ∨ line.gap = [' ', ' '] := by
  have accepted : (line.statement.isEmpty || line.gap == twoSpaces) = true ↔
      line.statement = [] ∨ line.gap = [' ', ' '] := by
    simp [twoSpaces]
  rw [gapFindings, ← accepted]
  cases line.statement.isEmpty || line.gap == twoSpaces <;> simp

theorem spacingFindings_eq_nil_iff {strict : Bool} {line : Fixture.Line} {comment : Comment} :
    spacingFindings strict line comment = [] ↔
      (strict = true →
        comment.raw = comment.canonical ∧ (line.statement = [] ∨ line.gap = [' ', ' '])) := by
  rw [← spellingFindings_eq_nil_iff, ← gapFindings_eq_nil_iff, ← List.append_eq_nil_iff]
  cases strict <;> simp [spacingFindings]

theorem lineFindings_eq_nil_iff {policy : Policy} {line : Fixture.Line} {comment : Comment} :
    lineFindings policy line comment = [] ↔ CommentAccepted policy line comment := by
  rw [lineFindings, List.append_eq_nil_iff, ruleFindings_eq_nil_iff, spacingFindings_eq_nil_iff]
  simp only [isRuleName_iff]
  constructor
  · rintro ⟨⟨nonempty, rules, distinct, sorted⟩, spaced⟩
    exact ⟨nonempty, rules, distinct, sorted, spaced⟩
  · rintro ⟨nonempty, rules, distinct, sorted, spaced⟩
    exact ⟨⟨nonempty, rules, distinct, sorted⟩, spaced⟩

/-! ## The whole fixture -/

theorem place_eq_nil_iff {path : Path} {number : Nat} {findings : List Finding} :
    place path number findings = [] ↔ findings = [] :=
  List.map_eq_nil_iff

theorem problems_eq_nil_iff {policy : Policy} {fixture : Fixture} :
    problems policy fixture = [] ↔
      HeaderAccepted policy fixture.path fixture.header ∧
        ∀ line ∈ fixture.lines, ∀ comment, line.comment = some comment →
          CommentAccepted policy line comment := by
  rw [problems, List.append_eq_nil_iff, place_eq_nil_iff, headerFindings_eq_nil_iff,
    List.flatMap_eq_nil_iff]
  apply and_congr_right
  intro _
  constructor
  · intro accepted line member comment carried
    obtain ⟨number, numbered⟩ := Fixture.mem_lines_iff.mp member
    have nothing := accepted (number, line, comment)
      (Fixture.mem_comments_iff.mpr ⟨numbered, carried⟩)
    exact lineFindings_eq_nil_iff.mp (place_eq_nil_iff.mp nothing)
  · rintro accepted ⟨number, line, comment⟩ member
    obtain ⟨numbered, carried⟩ := Fixture.mem_comments_iff.mp member
    have lineMember := Fixture.mem_lines_iff.mpr ⟨number, numbered⟩
    exact place_eq_nil_iff.mpr
      (lineFindings_eq_nil_iff.mpr (accepted line lineMember comment carried))

/-- A text has no problem under a policy exactly if its header is accepted, and
every line after the header that carries a comment carries one that is accepted. -/
theorem problems_parse_eq_nil_iff (policy : Policy) (path : Path) (tool text : Text) :
    problems policy (Fixture.parse path tool text) = [] ↔
      HeaderAccepted policy path (Fixture.parse path tool text).header ∧
        ∀ line ∈ (Fixture.parse path tool text).lines, ∀ comment, line.comment = some comment →
          CommentAccepted policy line comment := by
  rw [problems_eq_nil_iff, Fixture.path_parse]

end GoldenCheck.Lint
