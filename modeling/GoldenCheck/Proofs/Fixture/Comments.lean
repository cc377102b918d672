import GoldenCheck.Proofs.Fixture.Header

/-!
# The comments of a fixture

A fixture has a comment for each line of its text in which one is found, under the
number of that line, and no others.  A first line that names a file is left out:
it is the header, even if a comment stands in the name.
-/

namespace GoldenCheck.Fixture

/-- A line carries the comment that is found in its body. -/
theorem Line.comment_parse (tool body : Text) (ending : Ending) :
    (parse tool body ending).comment = Comment.find tool body := by
  rw [parse, Comment.find]
  cases Comment.locate tool body <;> rfl

/-! ## Numbers -/

theorem pairwise_numberedLines (fixture : Fixture) :
    fixture.numberedLines.Pairwise fun first second => first.1 < second.1 := by
  have ascending : ((fixture.lines.zipIdx fixture.firstNumber).map Prod.snd).Pairwise (· < ·) := by
    rw [List.zipIdx_map_snd]
    exact List.pairwise_lt_range'
  exact List.pairwise_map.mpr (List.pairwise_map.mp ascending)

/-- Comments come in the order of their lines, and no line has two. -/
theorem pairwise_comments (fixture : Fixture) :
    fixture.comments.Pairwise fun first second => first.1 < second.1 := by
  rw [comments, List.pairwise_filterMap]
  refine fixture.pairwise_numberedLines.imp ?_
  rintro ⟨number, line⟩ ⟨otherNumber, other⟩ before first isFirst second isSecond
  obtain ⟨_, -, rfl⟩ := Option.map_eq_some_iff.mp isFirst
  obtain ⟨_, -, rfl⟩ := Option.map_eq_some_iff.mp isSecond
  exact before

/-- The lines of a fixture begin after the header, if its text has one. -/
theorem firstNumber_parse_le_iff {path : Path} {tool text body : Text} {ending : Ending}
    {index : Nat} (found : (splitLines text)[index]? = some (body, ending)) :
    (parse path tool text).firstNumber ≤ index + 1 ↔
      ¬(index = 0 ∧ ∃ word, NamesFile body word) := by
  rw [firstNumber_le_iff, isSome_header_parse_iff]
  apply not_congr
  apply and_congr_right
  rintro rfl
  rw [found]
  simp

/-! ## Comments and lines -/

theorem mem_comments_parse_iff {path : Path} {tool text : Text} {number : Nat} {line : Line}
    {comment : Comment} :
    (number, line, comment) ∈ (parse path tool text).comments ↔
      ∃ index body ending, number = index + 1 ∧
        (splitLines text)[index]? = some (body, ending) ∧
        ¬(index = 0 ∧ ∃ word, NamesFile body word) ∧
        Comment.find tool body = some comment ∧ line = Line.parse tool body ending := by
  have first_pos := one_le_firstNumber (parse path tool text)
  rw [mem_comments_iff, mem_numberedLines_parse_iff]
  constructor
  · rintro ⟨⟨from_first, body, ending, found, rfl⟩, carried⟩
    have number_eq : number = number - 1 + 1 := by omega
    rw [number_eq] at from_first
    rw [Line.comment_parse] at carried
    exact ⟨number - 1, body, ending, number_eq, found,
      (firstNumber_parse_le_iff found).mp from_first, carried, rfl⟩
  · rintro ⟨index, body, ending, rfl, found, notHeader, carried, rfl⟩
    exact ⟨⟨(firstNumber_parse_le_iff found).mpr notHeader, body, ending, found, rfl⟩,
      (Line.comment_parse tool body ending).trans carried⟩

/-- No comment escapes: wherever one is found in a line of the text, the fixture has
it under the number of that line, unless the line is the first and names a file.  The
fixture has no other comments, and none twice. -/
theorem comments_are_found_in_lines (path : Path) (tool text : Text) :
    (∀ index body ending comment, (splitLines text)[index]? = some (body, ending) →
      Comment.find tool body = some comment → ¬(index = 0 ∧ ∃ word, NamesFile body word) →
        (index + 1, Line.parse tool body ending, comment) ∈ (parse path tool text).comments) ∧
      (∀ number line comment, (number, line, comment) ∈ (parse path tool text).comments →
        ∃ index body ending, number = index + 1 ∧
          (splitLines text)[index]? = some (body, ending) ∧
          ¬(index = 0 ∧ ∃ word, NamesFile body word) ∧
          Comment.find tool body = some comment) ∧
      (parse path tool text).comments.Pairwise fun first second => first.1 < second.1 := by
  refine ⟨?_, ?_, pairwise_comments _⟩
  · intro index body ending comment found carried notHeader
    exact mem_comments_parse_iff.mpr
      ⟨index, body, ending, rfl, found, notHeader, carried, rfl⟩
  · intro number line comment member
    obtain ⟨index, body, ending, rfl, found, notHeader, carried, -⟩ :=
      mem_comments_parse_iff.mp member
    exact ⟨index, body, ending, rfl, found, notHeader, carried⟩

/-- A comment without white space may stand in the name of a file.  Then its line is
the header, and the fixture has no comment. -/
theorem header_hides_comment :
    let body : Text := "#pyright:ignore[reportA].py"
    splitLines (body ++ ['\n']) = [(body, .lf)] ∧
      (∃ comment, Comment.find "pyright" body = some comment ∧ comment.codes = ["reportA"]) ∧
      (parse (Path.ofText "a.py") "pyright" (body ++ ['\n'])).comments = [] := by
  refine ⟨by decide, ?_, by decide⟩
  refine ⟨⟨"pyright", "reportA", "#pyright:ignore[reportA]", 0⟩, by decide +kernel, by decide⟩

end GoldenCheck.Fixture
