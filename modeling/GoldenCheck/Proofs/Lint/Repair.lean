import GoldenCheck.Proofs.Comment.Canonical
import GoldenCheck.Proofs.Comment.Opening
import GoldenCheck.Proofs.Lint.Acceptance

/-!
# Following the advice on spacing

Strict spacing asks for the usual spelling of a comment, two spaces after the
statement.  A line that is rewritten in this way has the same statement, tool,
entries and trailing text as before, and nothing is left to complain about.  The
rewritten comment could only be missed if an earlier `#` began to match, but the
opening of such a comment would lie in the statement, and would have matched before.
-/

namespace GoldenCheck

open GoldenCheck.Text (isBlank)

namespace Fixture.Line

/-- A line with a comment was divided where the search found it. -/
theorem locate_of_comment_parse {tool body : Text} {ending : Ending} {comment : Comment}
    (carried : (parse tool body ending).comment = some comment) :
    ∃ reading, Comment.locate tool body = some ((parse tool body ending).code, reading) ∧
      comment = Comment.ofReading (parse tool body ending).code reading ∧
      (parse tool body ending).trailing = reading.rest := by
  unfold parse at carried ⊢
  cases located : Comment.locate tool body with
  | none =>
      rw [located] at carried
      contradiction
  | some pair =>
      obtain ⟨before, reading⟩ := pair
      rw [located] at carried
      exact ⟨reading, rfl, (Option.some.inj carried).symm, rfl⟩

/-- The gap that strict spacing asks for.  Without a statement any will do. -/
def advisedGap (line : Line) : Text :=
  if line.statement = [] then line.code else [' ', ' ']

/-- The body of a line as strict spacing asks for it. -/
def advisedBody (line : Line) (comment : Comment) : Text :=
  line.statement ++ line.advisedGap ++ comment.canonical ++ line.trailing

theorem statement_append_gap (line : Line) : line.statement ++ line.gap = line.code :=
  Text.trimEnd_append_blankEnd line.code

theorem isBlank_of_mem_advisedGap {line : Line} {c : Char} (member : c ∈ line.advisedGap) :
    isBlank c = true := by
  rw [advisedGap] at member
  split at member
  · rename_i noStatement
    rw [← line.statement_append_gap, noStatement, List.nil_append] at member
    exact Text.isBlank_of_mem_blankEnd member
  · obtain rfl | rfl := List.mem_pair.mp member <;> decide

theorem trimEnd_statement_append_advisedGap (line : Line) :
    Text.trimEnd (line.statement ++ line.advisedGap) = line.statement := by
  rw [Text.trimEnd_append_of_blank fun c => isBlank_of_mem_advisedGap]
  exact Text.trimEnd_eq_self fun c => Text.isBlank_getLast?_trimEnd

theorem blankEnd_statement_append_advisedGap (line : Line) :
    Text.blankEnd (line.statement ++ line.advisedGap) = line.advisedGap := by
  have joined := Text.trimEnd_append_blankEnd (line.statement ++ line.advisedGap)
  rw [trimEnd_statement_append_advisedGap] at joined
  exact List.append_cancel_left joined

/-- In the advised body the search finds the rewritten comment. -/
theorem locate_advisedBody {tool body : Text} {ending : Ending} {comment : Comment}
    (noSign : '#' ∉ tool) (onLine : '\n' ∉ body)
    (carried : (parse tool body ending).comment = some comment) :
    Comment.locate tool ((parse tool body ending).advisedBody comment) =
      some ((parse tool body ending).statement ++ (parse tool body ending).advisedGap,
        Comment.usualReading comment.tool comment.codes (parse tool body ending).trailing) := by
  obtain ⟨reading, located, rfl, trailing⟩ := locate_of_comment_parse carried
  have found : Comment.find tool body =
      some (Comment.ofReading (parse tool body ending).code reading) := by
    rw [Comment.find, located]
    rfl
  generalize parse tool body ending = line at located trailing found ⊢
  obtain ⟨occurs, first⟩ := Comment.locate_sound located
  rw [advisedBody, List.append_assoc _ (Comment.canonical _), Comment.locate_eq_some_iff]
  refine ⟨Comment.occurs_canonical found _ _, ?_⟩
  intro before other occursOther
  by_contra early
  obtain ⟨middle, shape⟩ := occursOther.opening_in_front noSign (Nat.lt_of_not_le early)
  obtain ⟨rest, statement⟩ :=
    Comment.Reading.opening_before_blank (fun c => isBlank_of_mem_advisedGap) shape
  -- The opening lies in the statement, so it begins a comment of the body as it was.
  have body_eq :
      body = before ++ (other.opening ++ (rest ++ line.gap ++ (reading.raw ++ reading.rest))) := by
    rw [← occurs.line_eq, ← line.statement_append_gap, statement]
    simp only [List.append_assoc]
  have closed : ']' ∈ rest ++ line.gap ++ (reading.raw ++ reading.rest) := by
    simp [Comment.Reading.raw_eq_opening_append]
  have tailOnLine : '\n' ∉ rest ++ line.gap ++ (reading.raw ++ reading.rest) := by
    intro newline
    rw [body_eq] at onLine
    exact onLine (List.mem_append_right _ (List.mem_append_right _ newline))
  obtain ⟨earlier, occursEarlier⟩ :=
    Comment.exists_occurs_of_opening occursOther.isFor before closed tailOnLine
  rw [← body_eq] at occursEarlier
  have notEarlier := first before earlier occursEarlier
  have opens : 0 < other.opening.length := by simp [Comment.Reading.opening]
  rw [← line.statement_append_gap, statement, List.length_append, List.length_append,
    List.length_append] at notEarlier
  omega

/-- The advised body is read as the same line, with the comment in its usual spelling
after the advised gap. -/
theorem parse_advisedBody {tool body : Text} {ending : Ending} {comment : Comment}
    (noSign : '#' ∉ tool) (onLine : '\n' ∉ body)
    (carried : (parse tool body ending).comment = some comment) :
    let line := parse tool body ending
    let code := line.statement ++ line.advisedGap
    parse tool (line.advisedBody comment) ending =
      { code := code
        comment := some (Comment.ofReading code
          (Comment.usualReading comment.tool comment.codes line.trailing))
        trailing := line.trailing
        ending := ending } := by
  intro line code
  rw [parse, locate_advisedBody noSign onLine carried]
  rfl

end Fixture.Line

namespace Lint

/-- The usual spelling of a comment is a comment from its first character to its last,
with the same tool and entries, and has its usual spelling.  For a tool without `#`, a
line that is rewritten as strict spacing asks keeps its statement, tool, entries and
trailing text, and strict spacing finds nothing wrong with it. -/
theorem usual_spelling_settles (tool : Text) :
    (∀ text comment, Comment.find tool text = some comment →
      ∃ found, Comment.find tool comment.canonical = some found ∧
        found.start = 0 ∧ found.stop = Text.byteLength comment.canonical ∧
        found.raw = comment.canonical ∧ found.tool = comment.tool ∧
        found.codes = comment.codes ∧ found.isCanonical = true) ∧
      ('#' ∉ tool → ∀ body ending comment, '\n' ∉ body →
        (Fixture.Line.parse tool body ending).comment = some comment →
        let line := Fixture.Line.parse tool body ending
        let advised := Fixture.Line.parse tool (line.advisedBody comment) ending
        ∃ found, advised.comment = some found ∧ advised.statement = line.statement ∧
          found.tool = comment.tool ∧ found.codes = comment.codes ∧
          advised.trailing = line.trailing ∧ spacingFindings true advised found = []) := by
  constructor
  · intro text comment found
    have occurs := Comment.occurs_canonical found [] []
    rw [List.nil_append, List.append_nil] at occurs
    have again := Comment.find_eq_some_iff.mpr
      ⟨[], _, ⟨occurs, fun _ _ _ => Nat.zero_le _⟩, rfl⟩
    have raw := Comment.raw_ofReading_usualReading comment [] []
    refine ⟨_, again, rfl, ?_, raw, rfl, Comment.codes_ofReading_usualReading comment [] [], ?_⟩
    · rw [Comment.stop, raw]
      exact Nat.zero_add _
    · rw [Comment.isCanonical, raw, Comment.canonical_ofReading_usualReading, beq_self_eq_true]
  · intro noSign body ending comment onLine carried line advised
    have parsed : advised = _ := Fixture.Line.parse_advisedBody noSign onLine carried
    rw [parsed]
    refine ⟨_, rfl, line.trimEnd_statement_append_advisedGap, rfl,
      Comment.codes_ofReading_usualReading comment _ _, rfl, ?_⟩
    refine spacingFindings_eq_nil_iff.mpr fun _ => ⟨?_, ?_⟩
    · rw [Comment.raw_ofReading_usualReading, Comment.canonical_ofReading_usualReading]
    · rw [Fixture.Line.statement, Fixture.Line.gap]
      dsimp only
      rw [line.trimEnd_statement_append_advisedGap, line.blankEnd_statement_append_advisedGap,
        Fixture.Line.advisedGap]
      split
      · rename_i noStatement
        exact .inl noStatement
      · exact .inr rfl

/-- A line with a `#` in its statement and a comment right behind it. -/
theorem usual_spelling_settles_crowded_line :
    let body : Text := "x = '#'#PyRight:IGNORE[reportB,,reportA] t"
    let comment : Comment :=
      ⟨"PyRight", "reportB,,reportA", "#PyRight:IGNORE[reportB,,reportA]", 7⟩
    let advised : Text := "x = '#'  # PyRight: ignore[reportB, , reportA] t"
    '#' ∉ ("pyright" : Text) ∧ '\n' ∉ body ∧
      (Fixture.Line.parse "pyright" body .lf).comment = some comment ∧
      ∃ found, (Fixture.Line.parse "pyright" advised .lf).comment = some found ∧
        found.tool = "PyRight" ∧ found.codes = ["reportB", "", "reportA"] ∧
        spacingFindings true (Fixture.Line.parse "pyright" advised .lf) found = [] := by
  intro body comment advised
  have noSign : '#' ∉ ("pyright" : Text) := by decide
  have onLine : '\n' ∉ body := by decide
  have carried : (Fixture.Line.parse "pyright" body .lf).comment = some comment := by
    decide +kernel
  have rewritten : (Fixture.Line.parse "pyright" body .lf).advisedBody comment = advised := by
    decide +kernel
  obtain ⟨found, carriedAgain, -, tool, codes, -, nothing⟩ :=
    (usual_spelling_settles "pyright").2 noSign body .lf comment onLine carried
  rw [rewritten] at carriedAgain nothing
  exact ⟨noSign, onLine, carried, found, carriedAgain, tool, codes, nothing⟩

end Lint

end GoldenCheck
