import GoldenCheck.Proofs.LineEndings
import GoldenCheck.Proofs.Lint.Lines

/-!
# Problems and line endings

The linter looks at the bodies of lines and never at what ends them.  Texts that agree
modulo line endings have the same bodies, so they have the same problems.  A carriage
return that no newline follows is white space for the linter, but it belongs to the
body on both sides.
-/

namespace GoldenCheck

namespace Fixture

/-! ## Reading a line without its ending -/

/-- Whether a line is a header is decided without its ending. -/
theorem Header.detect_eq_map (body : Text) (ending other : Ending) :
    detect body ending =
      (detect body other).map fun header => { header with ending := ending } := by
  unfold detect
  split
  · dsimp only
    split <;> rfl
  · rfl

/-- Where a line is divided is decided without its ending. -/
theorem Line.parse_eq (tool body : Text) (ending other : Ending) :
    parse tool body ending = { parse tool body other with ending := ending } := by
  unfold parse
  split <;> rfl

/-! ## Rewriting endings -/

/-- The ending of a line in a text whose lines end in `\r\n`. -/
def Ending.withReturn : Ending → Ending
  | .lf => .crlf
  | .crlf => .crlf
  | .none => .none

theorem Ending.withReturn_ne_none {ending : Ending} (ended : ending ≠ .none) :
    ending.withReturn ≠ .none := by
  cases ending with
  | lf => nofun
  | crlf => nofun
  | none => exact ended

/-- With `\r\n` for its ending a line is divided at the same place. -/
theorem Divides.withReturn {segment body : Text} {ending : Ending}
    (divides : Divides segment body ending) :
    Divides (body ++ ending.withReturn.text) body ending.withReturn where
  joined := rfl
  inside := divides.inside
  whole := by cases ending <;> nofun

/-- The text with `\r\n` for every `\n` that ends a line. -/
def withReturns (text : Text) : Text :=
  ((splitLines text).map fun line => line.1 ++ line.2.withReturn.text).flatten

/-- Every line keeps its body, and has the new ending. -/
theorem splitLines_withReturns (text : Text) :
    splitLines (withReturns text) =
      (splitLines text).map fun line => (line.1, line.2.withReturn) := by
  have shape := Text.segmented_segments text
  generalize Text.segments text = lines at shape
  induction shape with
  | nil => rfl
  | @last body nonempty inside =>
      have single := splitLines_of_not_mem nonempty inside
      simp [withReturns, single, Ending.withReturn, Ending.text]
  | @line body rest lines inside later ih =>
      obtain ⟨divides, ended⟩ := divides_splitSegment_newline inside
      have cut := splitLines_append divides ended rest
      rw [List.append_assoc, List.singleton_append] at cut
      rw [withReturns, cut, List.map_cons, List.flatten_cons, ← withReturns,
        splitLines_append divides.withReturn (Ending.withReturn_ne_none ended), ih, List.map_cons]

end Fixture

namespace Lint

open Fixture (Ending splitLines)

/-! ## Findings look at bodies -/

theorem headerPresence_map_ending (policy : HeaderPolicy) (header? : Option Fixture.Header)
    (ending : Ending) :
    headerPresence policy (header?.map fun header => { header with ending := ending }) =
      headerPresence policy header? := by
  cases policy <;> cases header? <;> rfl

theorem headerNaming_map_ending (path : Path) (header? : Option Fixture.Header)
    (ending : Ending) :
    headerNaming path (header?.map fun header => { header with ending := ending }) =
      headerNaming path header? := by
  cases header? <;> rfl

theorem ordinaryFindings_ending (policy : Policy) (tool body : Text) (ending other : Ending) :
    ordinaryFindings policy tool (some (body, ending)) =
      ordinaryFindings policy tool (some (body, other)) := by
  dsimp only [ordinaryFindings, Option.elim_some]
  rw [Fixture.Line.parse_eq tool body ending other]
  rfl

theorem firstFindings_ending (policy : Policy) (path : Path) (tool body : Text)
    (ending other : Ending) :
    firstFindings policy path tool (some (body, ending)) =
      firstFindings policy path tool (some (body, other)) := by
  simp only [firstFindings, Option.bind_some, Fixture.Header.detect_eq_map body ending other,
    headerPresence_map_ending, headerNaming_map_ending, Option.isSome_map,
    ordinaryFindings_ending policy tool body ending other]

/-- What is said at a line is said of its body. -/
theorem findingsAt_of_same_body (policy : Policy) (path : Path) (tool : Text) (index : Nat)
    {line? other? : Option (Text × Ending)} (same : line?.map Prod.fst = other?.map Prod.fst) :
    findingsAt policy path tool index line? = findingsAt policy path tool index other? := by
  rcases line? with _ | ⟨body, ending⟩ <;> rcases other? with _ | ⟨otherBody, other⟩
  · rfl
  · contradiction
  · contradiction
  · obtain rfl : body = otherBody := Option.some.inj same
    cases index with
    | zero => exact firstFindings_ending policy path tool body ending other
    | succ index => exact ordinaryFindings_ending policy tool body ending other

/-- Texts whose lines have the same bodies have the same problems. -/
theorem problems_parse_of_same_bodies (policy : Policy) (path : Path) (tool : Text)
    {first second : Text}
    (same : (splitLines first).map Prod.fst = (splitLines second).map Prod.fst) :
    problems policy (Fixture.parse path tool first) =
      problems policy (Fixture.parse path tool second) := by
  have sameLength : (splitLines first).length = (splitLines second).length := by
    simpa using congrArg List.length same
  rw [problems_parse, problems_parse, sameLength]
  apply List.flatMap_congr
  intro index _
  have sameBody := congrArg (fun bodies => bodies[index]?) same
  simp only [List.getElem?_map] at sameBody
  rw [findingsAt_of_same_body policy path tool index sameBody]

/-- Texts that agree modulo line endings have the same problems, in the same order and
with the same messages.  In particular a text may have `\r\n` for every `\n` at the end
of a line. -/
theorem problems_ignore_line_endings (policy : Policy) (path : Path) (tool : Text) :
    (∀ first second, Diff.agree .normalizeLineEndings first second = true →
      problems policy (Fixture.parse path tool first) =
        problems policy (Fixture.parse path tool second)) ∧
    ∀ text,
      splitLines (Fixture.withReturns text) =
        (splitLines text).map (fun line => (line.1, line.2.withReturn)) ∧
      problems policy (Fixture.parse path tool (Fixture.withReturns text)) =
        problems policy (Fixture.parse path tool text) := by
  constructor
  · intro first second agreed
    apply problems_parse_of_same_bodies
    have same := congrArg (List.map Prod.fst) (Diff.agree_normalizeLineEndings_iff.mp agreed)
    simpa [Diff.plainLines, Diff.plainLine, Function.comp_def] using same
  · intro text
    have rewritten := Fixture.splitLines_withReturns text
    refine ⟨rewritten, ?_⟩
    apply problems_parse_of_same_bodies
    rw [rewritten, List.map_map]
    rfl

/-- Endings of all kinds, and carriage returns that belong to bodies: one in a gap, and
one in front of `\r\n`. -/
theorem problems_of_mixed_endings :
    let first : Text := "# b.py\r\nx\r# pyright: ignore[]\r\r\ny\n"
    let second : Text := "# b.py\nx\r# pyright: ignore[]\r\r\ny\r\n"
    let policy : Policy := ⟨.optional, .any, true⟩
    let path := Path.ofText "a.py"
    Diff.agree .normalizeLineEndings first second = true ∧
      problems policy (Fixture.parse path "pyright" first) =
        problems policy (Fixture.parse path "pyright" second) ∧
      (problems policy (Fixture.parse path "pyright" first)).map Problem.kind =
        [.headerPathMismatch, .emptyRuleList, .missingTwoSpaceGap] := by
  intro first second policy path
  have agreed : Diff.agree .normalizeLineEndings first second = true := by decide +kernel
  exact ⟨agreed, (problems_ignore_line_endings policy path "pyright").1 first second agreed,
    by decide +kernel⟩

end Lint

end GoldenCheck
