import GoldenCheck.Proofs.Comment.Reading

/-!
# Finding the first comment of a line

An occurrence of a comment is a division of the line: what stands before it, its
parts, and what stands after it.  The search returns the occurrence that begins
first, the division at its beginning is the only one, and the bytes reported for
it begin and end between characters.
-/

namespace GoldenCheck.Comment

open GoldenCheck.Text (isBlank)

/-! ## Occurrences -/

/-- A comment for a tool stands in a line after a given text. -/
@[mk_iff]
structure Occurs (tool line before : Text) (reading : Reading) : Prop where
  isFor : reading.IsFor tool
  line_eq : before ++ (reading.raw ++ reading.rest) = line

theorem occurs_nil_iff {tool line : Text} {reading : Reading} :
    Occurs tool line [] reading ↔ read? tool line = some reading := by
  rw [read?_eq_some_iff, occurs_iff, List.nil_append]

theorem occurs_cons_iff {tool line before : Text} {c d : Char} {reading : Reading} :
    Occurs tool (c :: line) (d :: before) reading ↔ d = c ∧ Occurs tool line before reading := by
  constructor
  · rintro ⟨isFor, line_eq⟩
    rw [List.cons_append] at line_eq
    obtain ⟨rfl, rfl⟩ := List.cons.inj line_eq
    exact ⟨rfl, isFor, rfl⟩
  · rintro ⟨rfl, isFor, rfl⟩
    exact ⟨isFor, rfl⟩

theorem not_occurs_nil {tool before : Text} {reading : Reading} :
    ¬Occurs tool [] before reading := by
  rintro ⟨-, line_eq⟩
  rw [Reading.raw_append_rest] at line_eq
  simp at line_eq

/-- At one place a line can be divided into a comment in one way only. -/
theorem Occurs.unique {tool line before before' : Text} {reading reading' : Reading}
    (first : Occurs tool line before reading) (second : Occurs tool line before' reading')
    (place : before'.length = before.length) : before' = before ∧ reading' = reading := by
  obtain ⟨rfl, same⟩ :=
    List.append_inj (second.line_eq.trans first.line_eq.symm) place
  have firstRead := read?_eq_some_iff.mpr ⟨first.isFor, rfl⟩
  have secondRead := read?_eq_some_iff.mpr ⟨second.isFor, same⟩
  exact ⟨rfl, Option.some.inj (secondRead.symm.trans firstRead)⟩

/-! ## The search -/

theorem locate_eq_none_iff {tool line : Text} :
    locate tool line = none ↔ ∀ before reading, ¬Occurs tool line before reading := by
  induction line with
  | nil => simp [locate, not_occurs_nil]
  | cons c line ih =>
      rw [locate]
      cases here : read? tool (c :: line) with
      | some reading =>
          simp only [reduceCtorEq, false_iff]
          intro absent
          exact absent [] reading (occurs_nil_iff.mpr here)
      | none =>
          simp only [Option.map_eq_none_iff, ih]
          constructor
          · intro absent before reading occurs
            cases before with
            | nil =>
                rw [occurs_nil_iff, here] at occurs
                contradiction
            | cons d before => exact absent before reading (occurs_cons_iff.mp occurs).2
          · intro absent before reading occurs
            exact absent (c :: before) reading (occurs_cons_iff.mpr ⟨rfl, occurs⟩)

/-- What the search returns occurs, and nothing occurs before it. -/
theorem locate_sound {tool line before : Text} {reading : Reading}
    (found : locate tool line = some (before, reading)) :
    Occurs tool line before reading ∧
      ∀ before' reading', Occurs tool line before' reading' → before.length ≤ before'.length := by
  induction line generalizing before with
  | nil => contradiction
  | cons c line ih =>
      rw [locate] at found
      cases here : read? tool (c :: line) with
      | some first =>
          rw [here] at found
          obtain ⟨rfl, rfl⟩ := Prod.mk.inj (Option.some.inj found)
          exact ⟨occurs_nil_iff.mpr here, fun _ _ _ => Nat.zero_le _⟩
      | none =>
          rw [here] at found
          obtain ⟨⟨front, later⟩, inner, rebuilt⟩ := Option.map_eq_some_iff.mp found
          obtain ⟨rfl, rfl⟩ := Prod.mk.inj rebuilt
          obtain ⟨occurs, first⟩ := ih inner
          refine ⟨occurs_cons_iff.mpr ⟨rfl, occurs⟩, ?_⟩
          intro before' reading' other
          cases before' with
          | nil =>
              rw [occurs_nil_iff, here] at other
              contradiction
          | cons d before' =>
              exact Nat.succ_le_succ (first before' reading' (occurs_cons_iff.mp other).2)

/-- The search returns the occurrence that begins first. -/
theorem locate_eq_some_iff {tool line before : Text} {reading : Reading} :
    locate tool line = some (before, reading) ↔
      Occurs tool line before reading ∧
        ∀ before' reading', Occurs tool line before' reading' → before.length ≤ before'.length := by
  constructor
  · exact locate_sound
  · rintro ⟨occurs, first⟩
    cases found : locate tool line with
    | none => exact absurd occurs (locate_eq_none_iff.mp found before reading)
    | some pair =>
        obtain ⟨before', reading'⟩ := pair
        obtain ⟨occurs', first'⟩ := locate_sound found
        have place := Nat.le_antisymm (first' before reading occurs) (first before' reading' occurs')
        obtain ⟨rfl, rfl⟩ := occurs.unique occurs' place
        rfl

/-! ## The entries of the list -/

/-- The entries of what the brackets hold: none if that is white space, and else
the texts between commas, each trimmed. -/
def EntriesOf (listed : Text) (codes : List Text) : Prop :=
  ((∀ c ∈ listed, isBlank c = true) → codes = []) ∧
    ((∃ c ∈ listed, isBlank c = false) → List.Forall₂ Text.Trims (listed.splitOn ',') codes)

theorem entriesOf_entries (listed : Text) : EntriesOf listed (entries listed) := by
  rw [entries]
  constructor
  · intro blank
    rw [if_pos (Text.isBlankText_iff.mpr blank)]
  · rintro ⟨c, member, notBlank⟩
    have visible : ¬Text.isBlankText listed = true := by
      intro blank
      rw [Text.isBlankText_iff.mp blank c member] at notBlank
      contradiction
    rw [if_neg visible, Text.pieces_eq_splitOn, List.forall₂_map_right_iff, List.forall₂_same]
    intro piece _
    exact Text.trims_trim piece

/-! ## The comment that is found -/

theorem find_eq_none_iff {tool line : Text} :
    find tool line = none ↔ ∀ before reading, ¬Occurs tool line before reading := by
  rw [find, Option.map_eq_none_iff, locate_eq_none_iff]

theorem find_eq_some_iff {tool line : Text} {comment : Comment} :
    find tool line = some comment ↔
      ∃ before reading,
        (Occurs tool line before reading ∧
          ∀ before' reading', Occurs tool line before' reading' →
            before.length ≤ before'.length) ∧
        ofReading before reading = comment := by
  simp only [← locate_eq_some_iff]
  rw [find, Option.map_eq_some_iff]
  constructor
  · rintro ⟨⟨before, reading⟩, found, built⟩
    exact ⟨before, reading, found, built⟩
  · rintro ⟨before, reading, found, built⟩
    exact ⟨(before, reading), found, built⟩

/-- The search fails exactly on lines without a comment.  Otherwise it returns
the comment that begins first.  There is a single way to divide the line at that
place, the bytes of the comment begin and end between characters, and its entries
are those of its brackets. -/
theorem find_returns_first_occurrence (tool line : Text) :
    (find tool line = none ↔ ∀ before reading, ¬Occurs tool line before reading) ∧
      ∀ comment, find tool line = some comment →
        ∃ before reading, Occurs tool line before reading ∧
          (∀ before' reading', Occurs tool line before' reading' →
            before.length ≤ before'.length) ∧
          (∀ before' reading', Occurs tool line before' reading' →
            before'.length = before.length → before' = before ∧ reading' = reading) ∧
          comment.tool = reading.tool ∧
          comment.raw = reading.raw ∧
          comment.start = Text.byteLength before ∧
          comment.stop = Text.byteLength (before ++ comment.raw) ∧
          Text.cutAtByte? comment.start line = some (before, comment.raw ++ reading.rest) ∧
          Text.cutAtByte? comment.stop line = some (before ++ comment.raw, reading.rest) ∧
          EntriesOf reading.listed comment.codes := by
  refine ⟨find_eq_none_iff, ?_⟩
  intro comment found
  obtain ⟨before, reading, ⟨occurs, first⟩, rfl⟩ := find_eq_some_iff.mp found
  have stop_eq : (ofReading before reading).stop = Text.byteLength (before ++ reading.raw) :=
    (Text.byteLength_append before reading.raw).symm
  refine ⟨before, reading, occurs, first, ?_, rfl, rfl, rfl, stop_eq, ?_, ?_, entriesOf_entries _⟩
  · intro before' reading' other place
    exact occurs.unique other place
  · rw [← occurs.line_eq]
    exact Text.cutAtByte?_byteLength_append before _
  · rw [← occurs.line_eq, ← List.append_assoc, stop_eq]
    exact Text.cutAtByte?_byteLength_append (before ++ reading.raw) _

end GoldenCheck.Comment
