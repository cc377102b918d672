import GoldenCheck.Proofs.Comment.Find

/-!
# The opening of a comment

A comment begins with its opening, which ends at the bracket.  Whatever follows an
opening makes it a comment, as soon as there is a closing bracket on the same line.
For a tool without `#` the sign stands only at the start of an opening, so an opening
that begins in front of a `#` ends in front of it too.
-/

namespace GoldenCheck.Comment

open GoldenCheck.Text (fold isBlank)

/-- What a comment begins with, up to its bracket. -/
def Reading.opening (reading : Reading) : Text :=
  '#' :: (reading.toolGap ++ reading.tool ++ ':' :: (reading.wordGap ++ reading.word)) ++ ['[']

theorem Reading.raw_eq_opening_append (reading : Reading) :
    reading.raw = reading.opening ++ (reading.listed ++ [']']) := by
  simp [raw, opening]

/-- After its opening a comment goes up to the first closing bracket. -/
theorem exists_occurs_of_opening {tool tail : Text} {reading : Reading}
    (isFor : reading.IsFor tool) (before : Text) (closed : ']' ∈ tail) (onLine : '\n' ∉ tail) :
    ∃ other, Occurs tool (before ++ (reading.opening ++ tail)) before other := by
  obtain ⟨listed, rest, rfl, first⟩ := List.eq_append_cons_of_mem closed
  refine ⟨{ reading with listed := listed, rest := rest }, ⟨?_, ?_⟩⟩
  · have onLine : '\n' ∉ listed := fun newline => onLine (List.mem_append_left _ newline)
    exact ⟨isFor.toolGap_blank, isFor.tool_folded, isFor.wordGap_blank, isFor.word_ignore, first,
      onLine⟩
  · simp [Reading.raw_eq_opening_append, Reading.opening]

/-- For a tool without `#` the sign stands only at the start of an opening. -/
theorem Reading.IsFor.sign_only_first {tool : Text} {reading : Reading}
    (isFor : reading.IsFor tool) (noSign : '#' ∉ tool) :
    '#' ∉ reading.opening.tail := by
  have noBlank {gap : Text} (blank : ∀ c ∈ gap, isBlank c = true) : '#' ∉ gap :=
    Text.not_mem_of_blank blank (by decide)
  have noTool : '#' ∉ reading.tool := by
    intro sign
    have folded : fold '#' ∈ tool.map fold := by
      rw [← isFor.tool_folded]
      exact List.mem_map_of_mem sign
    obtain ⟨c, member, same⟩ := List.mem_map.mp folded
    have sign_fold : fold '#' = '#' := (Text.fold_eq_sign_iff (by decide) (by decide)).mpr rfl
    rw [sign_fold, Text.fold_eq_sign_iff (by decide) (by decide)] at same
    exact noSign (same ▸ member)
  have noWord : '#' ∉ reading.word := isFor.not_mem_word (by decide)
  simp [opening, noBlank isFor.toolGap_blank, noTool, noBlank isFor.wordGap_blank, noWord]

/-- An occurrence that begins in front of a `#` has its opening in front of it. -/
theorem Occurs.opening_in_front {tool front back before : Text} {reading : Reading}
    (occurs : Occurs tool (front ++ '#' :: back) before reading) (noSign : '#' ∉ tool)
    (early : before.length < front.length) :
    ∃ middle, front = before ++ (reading.opening ++ middle) := by
  have line_eq := occurs.line_eq
  rw [Reading.raw_eq_opening_append, List.append_assoc] at line_eq
  rcases List.append_eq_append_iff.mp line_eq with
    ⟨inner, rfl, opened⟩ | ⟨overhang, rfl, -⟩
  · rcases List.append_eq_append_iff.mp opened with
      ⟨middle, rfl, -⟩ | ⟨overhang, shape, sign⟩
    · exact ⟨middle, rfl⟩
    · cases overhang with
      | nil => exact ⟨[], by rw [shape, List.append_nil, List.append_nil]⟩
      | cons c overhang =>
          -- The sign would stand in the opening, and not at its start.
          obtain ⟨rfl, -⟩ := List.cons.inj sign
          have sign := occurs.isFor.sign_only_first noSign
          cases inner with
          | nil => simp at early
          | cons first inner =>
              rw [shape] at sign
              simp at sign
  · rw [List.length_append] at early
    omega

/-- White space at the end of a text has no part in an opening, which ends in a
bracket. -/
theorem Reading.opening_before_blank {front gap before middle : Text} {reading : Reading}
    (blank : ∀ c ∈ gap, isBlank c = true)
    (shape : front ++ gap = before ++ (reading.opening ++ middle)) :
    ∃ rest, front = before ++ (reading.opening ++ rest) := by
  obtain ⟨stem, ended⟩ : ∃ stem, before ++ reading.opening = stem ++ ['['] :=
    ⟨_, (List.append_assoc ..).symm⟩
  rw [← List.append_assoc, ended] at shape
  rcases List.append_eq_append_iff.mp shape with ⟨overhang, stem_eq, rfl⟩ | ⟨rest, rfl, -⟩
  · rcases List.eq_nil_or_concat overhang with rfl | ⟨inner, c, rfl⟩
    · refine ⟨[], ?_⟩
      rw [List.append_nil, ended, stem_eq, List.append_nil]
    · have last : c = '[' := by
        have lasts := congrArg List.getLast? stem_eq
        simpa using lasts.symm
      exact absurd (blank c (by simp)) (by rw [last]; decide)
  · exact ⟨rest, by rw [← List.append_assoc, ended]⟩

end GoldenCheck.Comment
