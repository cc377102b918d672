import GoldenCheck.Lint
import GoldenCheck.Proofs.Fixture.Header

/-!
# Problems line by line

The linter walks over the lines that are left after a header was taken off, and
finds their numbers again from whether there was one.  Its report can be said
without that detour: it goes through the lines of the text as written, and what it
says at each of them depends on that line alone.  The header is a matter of the
first line, also of one that is missing.

So problems come in the order of the lines, their numbers are those of the text,
and a change of one line leaves what is reported at the others as it was.
-/

namespace GoldenCheck

namespace Fixture

/-! ## The numbers of lines -/

/-- A header is the first line of the text. -/
theorem getElem?_zero_of_header_parse {path : Path} {tool text : Text} {header : Header}
    (headed : (parse path tool text).header = some header) :
    (splitLines text)[0]? = some (header.body, header.ending) := by
  rw [header_parse, splitHeader_fst, Option.bind_eq_some_iff] at headed
  obtain ⟨line, found, detected⟩ := headed
  obtain ⟨body, ending⟩ := Header.detect_eq_some detected
  rw [found, body, ending]

/-- The lines are numbered one after the other, from the first after the header to the
last of the text. -/
theorem map_fst_numberedLines_parse (path : Path) (tool text : Text) :
    (parse path tool text).numberedLines.map Prod.fst =
      if (parse path tool text).header.isSome then
        List.range' 2 ((splitLines text).length - 1)
      else
        List.range' 1 (splitLines text).length := by
  have numbers : (parse path tool text).numberedLines.map Prod.fst =
      List.range' (parse path tool text).firstNumber (parse path tool text).lines.length := by
    rw [numberedLines, List.map_map]
    exact List.zipIdx_map_snd _ _
  rw [numbers, lines_parse, List.length_map, List.length_drop, firstNumber]
  split <;> rfl

/-- Line numbers count the lines of the text. -/
theorem getElem?_of_mem_numberedLines_parse {path : Path} {tool text : Text} {number : Nat}
    {line : Line} (member : (number, line) ∈ (parse path tool text).numberedLines) :
    (splitLines text)[number - 1]? = some (line.body, line.ending) := by
  obtain ⟨-, body, ending, found, rfl⟩ := mem_numberedLines_parse_iff.mp member
  rw [found, Line.body_parse, Line.ending_parse]

/-- A fixture contains the bodies of all lines of its text, except that of a header. -/
theorem containsLine_parse_iff {path : Path} {tool text body : Text} :
    (parse path tool text).containsLine body = true ↔
      ∃ index ending, (splitLines text)[index]? = some (body, ending) ∧
        ¬(index = 0 ∧ (parse path tool text).header.isSome = true) := by
  have first_pos := one_le_firstNumber (parse path tool text)
  simp only [containsLine, List.any_eq_true, beq_iff_eq, mem_lines_iff,
    mem_numberedLines_parse_iff, ← firstNumber_le_iff]
  constructor
  · rintro ⟨_, ⟨number, from_first, found, ending, placed, rfl⟩, same⟩
    rw [Line.body_parse] at same
    subst same
    exact ⟨number - 1, ending, placed, by omega⟩
  · rintro ⟨index, ending, placed, from_first⟩
    exact ⟨_, ⟨index + 1, from_first, body, ending, placed, rfl⟩, Line.body_parse _ _ _⟩

end Fixture

namespace Lint

open Fixture (Ending splitLines)

/-! ## What is wrong with one line of a text -/

/-- What is wrong with the comment of a line, if it carries one. -/
def commentFindings (policy : Policy) (line : Fixture.Line) : List Finding :=
  line.comment.elim [] (lineFindings policy line)

/-- What is wrong with a line of a text that is no header.  A missing line is in order. -/
def ordinaryFindings (policy : Policy) (tool : Text) (line? : Option (Text × Ending)) :
    List Finding :=
  line?.elim [] fun line => commentFindings policy (Fixture.Line.parse tool line.1 line.2)

/-- What is wrong with the first line of a text.  No comment is looked for in a header. -/
def firstFindings (policy : Policy) (path : Path) (tool : Text)
    (line? : Option (Text × Ending)) : List Finding :=
  let header? := line?.bind fun line => Fixture.Header.detect line.1 line.2
  headerPresence policy.header header? ++ headerNaming path header? ++
    if header?.isSome then [] else ordinaryFindings policy tool line?

/-- What is wrong with the line at an index of a text. -/
def findingsAt (policy : Policy) (path : Path) (tool : Text) :
    Nat → Option (Text × Ending) → List Finding
  | 0, line? => firstFindings policy path tool line?
  | _ + 1, line? => ordinaryFindings policy tool line?

/-! ## The report goes through the lines -/

/-- A comment is looked for on every line, and reported where it is found. -/
theorem problems_eq_append_flatMap (policy : Policy) (fixture : Fixture) :
    problems policy fixture =
      place fixture.path 1 (headerFindings policy fixture) ++
        fixture.numberedLines.flatMap fun entry =>
          place fixture.path entry.1 (commentFindings policy entry.2) := by
  rw [problems, Fixture.comments, List.filterMap_eq_flatMap_toList, List.flatMap_assoc]
  congr 1
  apply List.flatMap_congr
  rintro ⟨number, line⟩ -
  dsimp only [commentFindings]
  cases line.comment with
  | none => rfl
  | some comment => exact List.flatMap_singleton _ _

/-- Walking over numbered entries is walking over their indices. -/
theorem flatMap_zipIdx {α β : Type} (f : Nat → α → List β) (entries : List α) (start : Nat) :
    ((entries.zipIdx start).flatMap fun entry => f entry.2 entry.1) =
      (List.range entries.length).flatMap fun index =>
        entries[index]?.elim [] (f (start + index)) := by
  induction entries generalizing start with
  | nil => rfl
  | cons entry entries ih =>
      rw [List.zipIdx_cons, List.flatMap_cons, ih, List.length_cons, List.range_succ_eq_map,
        List.flatMap_cons, List.flatMap_map]
      simp [Nat.add_assoc, Nat.add_comm 1]

/-- The problems of a fixture whose lines were read from lines of a text. -/
theorem problems_of_lines (policy : Policy) (path : Path) (tool : Text)
    (header? : Option Fixture.Header) (lines : List (Text × Ending)) :
    let fixture : Fixture :=
      ⟨path, header?, lines.map fun line => Fixture.Line.parse tool line.1 line.2⟩
    problems policy fixture =
      place path 1 (headerPresence policy.header header? ++ headerNaming path header?) ++
        (List.range lines.length).flatMap fun index =>
          place path (fixture.firstNumber + index)
            (ordinaryFindings policy tool lines[index]?) := by
  intro fixture
  have walked := flatMap_zipIdx
    (fun number line => place path number (commentFindings policy line))
    fixture.lines fixture.firstNumber
  rw [problems_eq_append_flatMap, Fixture.numberedLines, List.flatMap_map, walked,
    List.length_map]
  congr 1
  apply List.flatMap_congr
  intro index _
  rw [List.getElem?_map]
  cases lines[index]? <;> rfl

theorem place_append (path : Path) (number : Nat) (first second : List Finding) :
    place path number (first ++ second) = place path number first ++ place path number second :=
  List.map_append

/-- The problems of a text are those of its lines as written, one line after the other.
A text without lines counts as one whose first line is missing. -/
theorem problems_parse (policy : Policy) (path : Path) (tool text : Text) :
    problems policy (Fixture.parse path tool text) =
      (List.range (max 1 (splitLines text).length)).flatMap fun index =>
        place path (index + 1) (findingsAt policy path tool index (splitLines text)[index]?) := by
  rw [Fixture.parse, problems_of_lines]
  generalize splitLines text = lines
  cases lines with
  | nil => simp [Fixture.splitHeader, findingsAt, firstFindings, ordinaryFindings]
  | cons line rest =>
      have count : max 1 (line :: rest).length = rest.length + 1 := by simp
      rw [count, List.range_succ_eq_map, List.flatMap_cons, List.flatMap_map, Fixture.splitHeader]
      cases detected : Fixture.Header.detect line.1 line.2 with
      | none =>
          -- The first line is reported twice over: for its lack of a header, and as a line.
          dsimp only
          rw [List.length_cons, List.range_succ_eq_map, List.flatMap_cons, List.flatMap_map]
          simp [findingsAt, firstFindings, detected, place_append, Fixture.firstNumber,
            Nat.add_comm 1]
      | some header =>
          simp [findingsAt, firstFindings, detected, Fixture.firstNumber, Nat.add_comm 2]

theorem line_of_mem_place {path : Path} {number : Nat} {findings : List Finding}
    {problem : Problem} (member : problem ∈ place path number findings) :
    problem.line = number := by
  obtain ⟨finding, -, rfl⟩ := List.mem_map.mp member
  rfl

/-! ## Numbers of problems -/

/-- Problems come in the order of their lines. -/
theorem pairwise_line_problems_parse (policy : Policy) (path : Path) (tool text : Text) :
    ((problems policy (Fixture.parse path tool text)).map Problem.line).Pairwise (· ≤ ·) := by
  rw [problems_parse, List.pairwise_map, List.pairwise_flatMap]
  constructor
  · intro index _
    refine List.pairwise_of_forall_mem_list ?_
    intro first isFirst second isSecond
    rw [line_of_mem_place isFirst, line_of_mem_place isSecond]
  · refine List.pairwise_lt_range.imp ?_
    intro index later before first isFirst second isSecond
    rw [line_of_mem_place isFirst, line_of_mem_place isSecond]
    omega

/-- A problem stands at a line of the text, or at the first if there is none. -/
theorem line_bounds_of_mem_problems_parse {policy : Policy} {path : Path} {tool text : Text}
    {problem : Problem} (member : problem ∈ problems policy (Fixture.parse path tool text)) :
    1 ≤ problem.line ∧ problem.line ≤ max 1 (splitLines text).length := by
  rw [problems_parse, List.mem_flatMap] at member
  obtain ⟨index, inside, member⟩ := member
  have below := List.mem_range.mp inside
  rw [line_of_mem_place member]
  omega

/-- Line numbers are those of the text.  A header is its first line; the lines of the
fixture are those that follow it, or all of them, in order and under their numbers; a
body is contained if it stands on one of them; and problems come in the order of the
lines, at numbers that the text has. -/
theorem line_numbers_are_physical (path : Path) (tool text : Text) :
    let fixture := Fixture.parse path tool text
    let lines := splitLines text
    (∀ header, fixture.header = some header →
      lines[0]? = some (header.body, header.ending)) ∧
    (fixture.numberedLines.map Prod.fst =
      if fixture.header.isSome then List.range' 2 (lines.length - 1)
      else List.range' 1 lines.length) ∧
    (∀ number line, (number, line) ∈ fixture.numberedLines →
      lines[number - 1]? = some (line.body, line.ending)) ∧
    (∀ body, fixture.containsLine body = true ↔
      ∃ index ending, lines[index]? = some (body, ending) ∧
        ¬(index = 0 ∧ fixture.header.isSome = true)) ∧
    ∀ policy, ((problems policy fixture).map Problem.line).Pairwise (· ≤ ·) ∧
      ∀ problem ∈ problems policy fixture,
        1 ≤ problem.line ∧ problem.line ≤ max 1 lines.length := by
  intro fixture lines
  refine ⟨?_, ?_, ?_, ?_, ?_⟩
  · intro header headed
    exact Fixture.getElem?_zero_of_header_parse headed
  · exact Fixture.map_fst_numberedLines_parse path tool text
  · intro number line member
    exact Fixture.getElem?_of_mem_numberedLines_parse member
  · intro body
    exact Fixture.containsLine_parse_iff
  · intro policy
    refine ⟨pairwise_line_problems_parse policy path tool text, ?_⟩
    intro problem member
    exact line_bounds_of_mem_problems_parse member

/-- A text with a header and a comment on its third line, which has no ending. -/
theorem line_numbers_of_headed_text :
    let text : Text := "# a.py\r\nx\ny  # pyright: ignore[]"
    let fixture := Fixture.parse (Path.ofText "a.py") "pyright" text
    let header : Fixture.Header := ⟨Path.ofText "a.py", "# a.py", .crlf⟩
    let line := Fixture.Line.parse "pyright" "y  # pyright: ignore[]" .none
    let policy : Policy := ⟨.optional, .any, false⟩
    let problem : Problem := ⟨Path.ofText "a.py", 3, .emptyRuleList,
      "`# pyright: ignore[]` suppresses no rules"⟩
    fixture.header = some header ∧
      (splitLines text)[0]? = some (header.body, header.ending) ∧
      (3, line) ∈ fixture.numberedLines ∧
      (splitLines text)[2]? = some (line.body, line.ending) ∧
      problem ∈ problems policy fixture ∧
      1 ≤ problem.line ∧ problem.line ≤ max 1 (splitLines text).length := by
  intro text fixture header line policy problem
  have headed : fixture.header = some header := by decide +kernel
  have numbered : (3, line) ∈ fixture.numberedLines := by decide +kernel
  have reported : problem ∈ problems policy fixture := by decide +kernel
  obtain ⟨first, -, entries, -, placed⟩ :=
    line_numbers_are_physical (Path.ofText "a.py") "pyright" text
  exact ⟨headed, first header headed, numbered, entries 3 line numbered, reported,
    (placed policy).2 problem reported⟩

/-! ## Changing one line -/

theorem filter_place_self (path : Path) (number : Nat) (findings : List Finding) :
    (place path number findings).filter (fun problem => problem.line ≠ number) = [] := by
  rw [List.filter_eq_nil_iff]
  intro problem member
  simp [line_of_mem_place member]

/-- A change of one line stays on that line: texts with the same number of lines that
differ at one line only have the same problems at all others, even if that line is a
header in one of them. -/
theorem change_of_line_stays_local (policy : Policy) (path : Path) (tool : Text)
    {first second : Text} {number : Nat} (positive : 1 ≤ number)
    (sameLength : (splitLines first).length = (splitLines second).length)
    (elsewhere : ∀ index, index ≠ number - 1 →
      (splitLines first)[index]? = (splitLines second)[index]?) :
    (problems policy (Fixture.parse path tool first)).filter
        (fun problem => problem.line ≠ number) =
      (problems policy (Fixture.parse path tool second)).filter
        (fun problem => problem.line ≠ number) := by
  rw [problems_parse, problems_parse, sameLength, List.filter_flatMap, List.filter_flatMap]
  apply List.flatMap_congr
  intro index _
  by_cases changed : index + 1 = number
  -- All that is said at the changed line is left out on both sides, the header included.
  · subst changed
    rw [filter_place_self, filter_place_self]
  · rw [elsewhere index (by omega)]

/-- The first line is a header in one text and carries a comment in the other.  What is
reported at the second line is the same. -/
theorem change_of_header_stays_local :
    let first : Text := "# a.py\nx # pyright: ignore[]"
    let second : Text := "#pyright:ignore[reportA]\nx # pyright: ignore[]"
    let policy : Policy := ⟨.required, .any, true⟩
    let path := Path.ofText "a.py"
    let firstProblems := problems policy (Fixture.parse path "pyright" first)
    let secondProblems := problems policy (Fixture.parse path "pyright" second)
    (splitLines first).length = (splitLines second).length ∧
      (∀ index, index ≠ 0 → (splitLines first)[index]? = (splitLines second)[index]?) ∧
      firstProblems.filter (fun problem => problem.line ≠ 1) =
        secondProblems.filter (fun problem => problem.line ≠ 1) ∧
      firstProblems.map Problem.kind = [.emptyRuleList, .missingTwoSpaceGap] ∧
      secondProblems.map Problem.kind =
        [.missingHeader, .nonCanonicalSpacing, .emptyRuleList, .missingTwoSpaceGap] := by
  intro first second policy path firstProblems secondProblems
  have sameLength : (splitLines first).length = (splitLines second).length := by decide +kernel
  have sameRest : (splitLines first).tail = (splitLines second).tail := by decide +kernel
  have elsewhere : ∀ index, index ≠ 0 →
      (splitLines first)[index]? = (splitLines second)[index]? := by
    intro index notFirst
    cases index with
    | zero => exact absurd rfl notFirst
    | succ index => rw [← List.getElem?_tail, ← List.getElem?_tail, sameRest]
  have unchanged := change_of_line_stays_local policy path "pyright" (Nat.le_refl 1) sameLength
    elsewhere
  exact ⟨sameLength, elsewhere, unchanged, by decide +kernel, by decide +kernel⟩

end Lint

end GoldenCheck
