import GoldenCheck.Proofs.Comment.Find

/-!
# The usual spelling of a comment

The usual spelling of a comment is itself a comment, with the same tool and the same
entries, and spelling that one changes nothing.  The entries survive because each
is trimmed and free of commas, and because the one list that would be misread, a
single blank entry, is never that of a comment.
-/

namespace GoldenCheck.Comment

open GoldenCheck.Text (fold isBlank)

/-! ## Entries -/

/-- An entry is trimmed, and is a part of what the brackets hold between two
commas. -/
theorem of_mem_entries {listed code : Text} (member : code ∈ entries listed) :
    Text.Tight code ∧ ∀ c ∈ code, c ∈ listed ∧ c ≠ ',' := by
  rw [entries] at member
  split at member
  · contradiction
  · obtain ⟨piece, cut, rfl⟩ := List.mem_map.mp member
    obtain ⟨tight, front, back, shape, -⟩ := Text.trims_trim piece
    refine ⟨tight, fun c inside => Text.mem_of_mem_pieces cut ?_⟩
    rw [shape]
    exact List.mem_append_left _ (List.mem_append_right _ inside)

/-- Entries are trimmed, so a blank one is empty. -/
theorem isBlankText_iff_of_mem_codes {comment : Comment} {code : Text}
    (member : code ∈ comment.codes) : Text.isBlankText code = true ↔ code = [] :=
  (of_mem_entries member).1.isBlankText_iff

/-- A single blank entry is none. -/
theorem entries_ne_singleton_nil (listed : Text) : entries listed ≠ [[]] := by
  intro single
  rw [entries] at single
  split at single
  · contradiction
  · rename_i visible
    obtain ⟨piece, cut, blank⟩ := List.map_eq_singleton_iff.mp single
    -- A single piece is all that the brackets hold.
    have whole := Text.join_pieces ',' listed
    rw [cut, Text.join, List.intercalate_singleton] at whole
    obtain ⟨-, front, back, shape, frontBlank, backBlank⟩ := Text.trims_trim piece
    rw [blank, List.append_nil] at shape
    apply visible
    rw [← whole, shape, Text.isBlankText_iff]
    intro c member
    rcases List.mem_append.mp member with inFront | inBack
    · exact frontBlank c inFront
    · exact backBlank c inBack

/-- Trimmed entries without commas are read back from their list, unless there is
only a blank one. -/
theorem entries_commaList {codes : List Text} (tight : ∀ code ∈ codes, Text.Tight code)
    (closed : ∀ code ∈ codes, ',' ∉ code) (notBlank : codes ≠ [[]]) :
    entries (Text.commaList codes) = codes := by
  cases codes with
  | nil => rfl
  | cons first rest =>
      have visible : ¬Text.isBlankText (Text.commaList (first :: rest)) = true := by
        rw [Text.isBlankText_iff]
        intro blank
        cases rest with
        | nil =>
            have filled : first ≠ [] := by simpa using notBlank
            obtain ⟨c, text, rfl⟩ := List.exists_cons_of_ne_nil filled
            have solid := (tight _ List.mem_cons_self).head c rfl
            rw [blank c (by simp [Text.commaList, Text.join])] at solid
            contradiction
        | cons second rest =>
            exact absurd (blank ',' (by simp [Text.commaList_cons_cons])) (by decide)
      have trimmed {code front : Text} (listed : code ∈ first :: rest)
          (blank : ∀ c ∈ front, isBlank c = true) : Text.trim (front ++ code) = code :=
        Text.trim_eq_of_trims ⟨tight code listed, front, [], by simp, blank, by simp⟩
      have trimmedRest : rest.map (Text.trim ∘ (' ' :: ·)) = rest := by
        conv_rhs => rw [← List.map_id rest]
        refine List.map_congr_left fun code listed => ?_
        exact @trimmed code [' '] (List.mem_cons_of_mem first listed)
          (List.forall_mem_singleton.mpr (by decide))
      rw [entries, if_neg visible, Text.pieces_commaList closed, List.map_cons, List.map_map,
        trimmedRest]
      exact congrArg (· :: rest) (@trimmed first [] List.mem_cons_self (by simp))

/-! ## The spelling as a reading -/

/-- The parts of the usual spelling, in front of some text. -/
def usualReading (tool : Text) (codes : List Text) (rest : Text) : Reading :=
  ⟨[' '], tool, [' '], ignoreWord, Text.commaList codes, rest⟩

theorem raw_usualReading (tool : Text) (codes : List Text) (rest : Text) :
    (usualReading tool codes rest).raw = spell tool codes :=
  rfl

/-- The usual spelling of a tool, in any case, and of entries without brackets occurs
wherever it is put. -/
theorem occurs_spell {tool written : Text} {codes : List Text}
    (folded : written.map fold = tool.map fold)
    (closed : ∀ code ∈ codes, ']' ∉ code) (onLine : ∀ code ∈ codes, '\n' ∉ code)
    (before rest : Text) :
    Occurs tool (before ++ (spell written codes ++ rest)) before
      (usualReading written codes rest) := by
  have absent {c : Char} (outside : ∀ code ∈ codes, c ∉ code) (notComma : c ≠ ',')
      (notSpace : c ≠ ' ') : c ∉ Text.commaList codes := by
    intro member
    rcases Text.mem_commaList member with isComma | isSpace | ⟨code, listed, inside⟩
    · exact notComma isComma
    · exact notSpace isSpace
    · exact outside code listed inside
  have space : ∀ c ∈ [' '], isBlank c = true := List.forall_mem_singleton.mpr (by decide)
  have word : ignoreWord.map Char.toLower = ignoreWord := by decide
  refine ⟨⟨space, folded, space, word, ?_, ?_⟩, ?_⟩
  · exact absent closed (by decide) (by decide)
  · exact absent onLine (by decide) (by decide)
  · rw [raw_usualReading]
    rfl

section Found

variable {tool line : Text} {comment : Comment}

/-- What is found is for the tool, and its brackets hold neither a bracket nor a
newline. -/
theorem of_find (found : find tool line = some comment) :
    comment.tool.map fold = tool.map fold ∧ ']' ∉ comment.listed ∧ '\n' ∉ comment.listed := by
  obtain ⟨before, reading, ⟨occurs, -⟩, rfl⟩ := find_eq_some_iff.mp found
  exact ⟨occurs.isFor.tool_folded, occurs.isFor.listed_open, occurs.isFor.listed_line⟩

/-- The usual spelling of a comment that was found occurs wherever it is put. -/
theorem occurs_canonical (found : find tool line = some comment) (before rest : Text) :
    Occurs tool (before ++ (comment.canonical ++ rest)) before
      (usualReading comment.tool comment.codes rest) := by
  obtain ⟨folded, closed, onLine⟩ := of_find found
  apply occurs_spell folded
  · intro code listed inside
    exact closed ((of_mem_entries listed).2 ']' inside).1
  · intro code listed inside
    exact onLine ((of_mem_entries listed).2 '\n' inside).1

/-- Spelled as usual, a comment keeps its entries. -/
theorem codes_ofReading_usualReading (comment : Comment) (before rest : Text) :
    (ofReading before (usualReading comment.tool comment.codes rest)).codes = comment.codes := by
  apply entries_commaList
  · intro code listed
    exact (of_mem_entries listed).1
  · intro code listed comma
    exact ((of_mem_entries listed).2 ',' comma).2 rfl
  · exact entries_ne_singleton_nil comment.listed

/-- Spelled as usual, a comment has its usual spelling. -/
theorem raw_ofReading_usualReading (comment : Comment) (before rest : Text) :
    (ofReading before (usualReading comment.tool comment.codes rest)).raw = comment.canonical :=
  raw_usualReading ..

theorem canonical_ofReading_usualReading (comment : Comment) (before rest : Text) :
    (ofReading before (usualReading comment.tool comment.codes rest)).canonical =
      comment.canonical := by
  rw [canonical, codes_ofReading_usualReading]
  rfl

end Found

end GoldenCheck.Comment
