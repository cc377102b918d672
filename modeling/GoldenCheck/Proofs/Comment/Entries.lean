import GoldenCheck.Proofs.Comment.Canonical
import GoldenCheck.Proofs.Comment.Rules

/-!
# The entries of a comment and its brackets

What the brackets of a comment hold is cut at its commas, and every part is trimmed.  A text
without anything but white space has no entries at all, and so a list of a single blank entry
never arises.  How many entries there are, and whether all of them are blank, can be read off
the characters between the brackets.
-/

namespace GoldenCheck.Comment

open GoldenCheck.Text (isBlank isBlankText)

/-! ## Lists of entries -/

theorem entries_eq_nil_iff {listed : Text} :
    entries listed = [] ↔ ∀ c ∈ listed, isBlank c = true := by
  rw [entries, ← Text.isBlankText_iff]
  split
  · rename_i blank
    simp [blank]
  · rename_i visible
    simp [visible, Text.pieces_ne_nil]

/-- Unless there is none, there is one entry more than there are commas. -/
theorem length_entries {listed : Text} (visible : ∃ c ∈ listed, isBlank c = false) :
    (entries listed).length = List.count ',' listed + 1 := by
  have notBlank : ¬isBlankText listed = true := by
    intro blank
    rcases visible with ⟨c, member, solid⟩
    exact Text.not_mem_of_blank (Text.isBlankText_iff.mp blank) solid member
  rw [entries, if_neg notBlank, List.length_map, Text.length_pieces]

/-- All entries are empty if nothing but white space and commas is listed. -/
theorem forall_mem_entries_eq_nil_iff {listed : Text} :
    (∀ code ∈ entries listed, code = []) ↔ ∀ c ∈ listed, isBlank c = true ∨ c = ',' := by
  rw [entries]
  split
  · rename_i blank
    constructor
    · intro _ c member
      exact .inl (Text.isBlankText_iff.mp blank c member)
    · intro _ code member
      contradiction
  · rw [← Text.forall_mem_pieces_iff, List.forall_mem_map]
    simp only [Text.trim_eq_nil_iff]

/-! ## The comment that is found -/

/-- The entries of a comment that was found in a text, told by what its brackets hold.  There
are none if that is white space, and else one more than there are commas.  They are all blank
exactly if nothing but white space and commas is listed, and a list of one blank entry does
not occur.  Each entry is trimmed, and is free of commas, closing brackets and newlines. -/
theorem codes_follow_brackets {tool line : Text} {comment : Comment}
    (found : find tool line = some comment) :
    ∃ before reading, Occurs tool line before reading ∧ ofReading before reading = comment ∧
      (∀ before' reading', Occurs tool line before' reading' → before.length ≤ before'.length) ∧
      (comment.isEmpty = true ↔ ∀ c ∈ reading.listed, isBlank c = true ∨ c = ',') ∧
      (comment.codes = [] ↔ ∀ c ∈ reading.listed, isBlank c = true) ∧
      ((∃ c ∈ reading.listed, isBlank c = false) →
        comment.codes.length = List.count ',' reading.listed + 1) ∧
      (∀ code, isBlankText code = true → comment.codes ≠ [code]) ∧
      ∀ code ∈ comment.codes,
        ',' ∉ code ∧ ']' ∉ code ∧ '\n' ∉ code ∧ Text.Tight code := by
  rcases find_eq_some_iff.mp found with ⟨before, reading, ⟨occurs, first⟩, rfl⟩
  refine ⟨before, reading, occurs, rfl, first, ?_, entries_eq_nil_iff, length_entries, ?_, ?_⟩
  · rw [isEmpty_iff]
    exact forall_mem_entries_eq_nil_iff
  · intro code blank single
    have isCode : code ∈ (ofReading before reading).codes := by simp [single]
    rw [(isBlankText_iff_of_mem_codes isCode).mp blank] at single
    exact entries_ne_singleton_nil reading.listed single
  · intro code member
    rcases of_mem_entries member with ⟨tight, inside⟩
    refine ⟨?_, ?_, ?_, tight⟩
    · intro comma
      exact (inside ',' comma).2 rfl
    · intro bracket
      exact occurs.isFor.listed_open (inside ']' bracket).1
    · intro newline
      exact occurs.isFor.listed_line (inside '\n' newline).1

/-- A tool that holds a bracket itself, and a list with a blank entry. -/
theorem codes_of_bracketed_tool :
    let line : Text := "x # A[B:ignore[ r ,\t, s\u00a0] ]"
    let comment : Comment := ⟨"A[B", " r ,\t, s\u00a0", "# A[B:ignore[ r ,\t, s\u00a0]", 2⟩
    find "a[b" line = some comment ∧ comment.codes = (["r", "", "s"] : List Text) ∧
      ¬comment.isEmpty = true ∧ comment.codes.length = List.count ',' comment.listed + 1 := by
  intro line comment
  have found : find "a[b" line = some comment := by decide +kernel
  have codes : comment.codes = (["r", "", "s"] : List Text) := by decide +kernel
  rcases codes_follow_brackets found with ⟨before, reading, -, built, -, empty, -, counted, -⟩
  have listed : reading.listed = comment.listed := congrArg Comment.listed built
  rw [listed] at empty counted
  refine ⟨found, codes, ?_, counted ⟨'r', by decide, by decide⟩⟩
  intro allBlank
  exact absurd (empty.mp allBlank 'r' (by decide)) (by decide)

end GoldenCheck.Comment
