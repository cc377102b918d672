import GoldenCheck.Proofs.Fixture.RoundTrip
import GoldenCheck.Proofs.Mismatch

/-!
# Comparing modulo line endings

Two parts of the program deal with `\r\n`.  The comparison of texts replaces it
by `\n` wherever it occurs, and the reader of fixtures takes it off the end of a
line.  Both see the same lines: a line of the replaced text is the body of a line
of the text as written, with a newline if anything ended that line.  So the
comparison decides whether the two texts have the same bodies in the same order,
and its line numbers are those of the texts as written.
-/

namespace GoldenCheck.Diff

open Fixture

/-! ## Lines without the kind of their ending -/

/-- What a line is when only the presence of its ending counts: its body, and
whether an ending follows. -/
def plainLine (line : Text × Ending) : Text × Bool :=
  (line.1, decide (line.2 ≠ .none))

/-- The lines of a text as it is written, without the kinds of their endings. -/
def plainLines (text : Text) : List (Text × Bool) :=
  (splitLines text).map plainLine

/-- A line with `\n` for whatever ends it. -/
def plainText (line : Text × Bool) : Text :=
  if line.2 then line.1 ++ ['\n'] else line.1

/-- A line that holds no newline of its own is known from its text. -/
theorem eq_of_plainText_eq {first second : Text × Bool} (firstInside : '\n' ∉ first.1)
    (secondInside : '\n' ∉ second.1) (same : plainText first = plainText second) :
    first = second := by
  obtain ⟨body, ended⟩ := first
  obtain ⟨otherBody, otherEnded⟩ := second
  cases ended <;> cases otherEnded <;>
    simp only [plainText, Bool.false_eq_true, if_false, if_true] at same firstInside secondInside
  · rw [same]
  · exact absurd (by simp [same]) firstInside
  · exact absurd (by simp [← same]) secondInside
  · rw [List.append_cancel_right same]

theorem newline_not_mem_plainLines {text : Text} {line : Text × Bool}
    (member : line ∈ plainLines text) : '\n' ∉ line.1 := by
  obtain ⟨⟨body, ending⟩, split, rfl⟩ := List.mem_map.mp member
  obtain ⟨index, found⟩ := List.mem_iff_getElem?.mp split
  obtain ⟨segment, -, divides⟩ := getElem?_splitLines_eq_some found
  exact divides.inside

/-! ## Replacing every `\r\n` -/

/-- A part without newlines stays as it is, unless a newline follows a carriage
return at its end. -/
theorem unifyEndings_append {body rest : Text} (inside : '\n' ∉ body)
    (apart : ¬(body.getLast? = some '\r' ∧ rest.head? = some '\n')) :
    unifyEndings (body ++ rest) = body ++ unifyEndings rest := by
  induction body with
  | nil => rfl
  | cons c body ih =>
      rw [List.mem_cons, not_or] at inside
      obtain ⟨-, inside⟩ := inside
      cases body with
      | nil =>
          cases rest with
          | nil => rfl
          | cons d rest =>
              have notBoth : ¬(c = '\r' ∧ d = '\n') := by simpa using apart
              rw [List.singleton_append, unifyEndings, if_neg notBoth]
              rfl
      | cons d body =>
          have notNewline : d ≠ '\n' := by
            rintro rfl
            exact inside List.mem_cons_self
          have notBoth : ¬(c = '\r' ∧ d = '\n') := fun both => notNewline both.2
          rw [List.getLast?_cons_cons] at apart
          rw [List.cons_append, List.cons_append, unifyEndings, if_neg notBoth,
            ← List.cons_append, ih inside apart]
          rfl

theorem unifyEndings_of_not_mem {body : Text} (inside : '\n' ∉ body) :
    unifyEndings body = body := by
  simpa [unifyEndings] using @unifyEndings_append body [] inside (by simp)

theorem unifyEndings_newline (rest : Text) :
    unifyEndings ('\n' :: rest) = '\n' :: unifyEndings rest := by
  cases rest with
  | nil => rfl
  | cons d rest => rw [unifyEndings, if_neg (by simp)]

/-- Replacing takes one line of the text after the other, and leaves the body of
each. -/
theorem unifyEndings_line {segment body : Text} {ending : Ending}
    (divides : Divides segment body ending) (ended : ending ≠ .none) (rest : Text) :
    unifyEndings (segment ++ rest) = body ++ '\n' :: unifyEndings rest := by
  obtain ⟨rfl, inside, whole⟩ := divides
  rw [List.append_assoc]
  cases ending with
  | lf =>
      have apart : ¬(body.getLast? = some '\r' ∧ ('\n' :: rest).head? = some '\n') :=
        fun both => whole rfl both.1
      exact (unifyEndings_append inside apart).trans (by rw [unifyEndings_newline])
  | crlf =>
      -- Only the last of several carriage returns goes with the newline.
      have apart : ¬(body.getLast? = some '\r' ∧ ('\r' :: '\n' :: rest).head? = some '\n') := by
        simp
      exact (unifyEndings_append inside apart).trans (by simp [unifyEndings])
  | none => contradiction

/-! ## The lines of the replaced text -/

/-- The lines of the replaced text are those of the text as written, each with its
ending replaced. -/
theorem segments_unifyEndings (text : Text) :
    Text.segments (unifyEndings text) = (plainLines text).map plainText := by
  have shape := Text.segmented_segments text
  rw [plainLines, splitLines]
  generalize Text.segments text = lines at shape
  induction shape with
  | nil => rfl
  | @last body nonempty inside =>
      rw [unifyEndings_of_not_mem inside, Text.segments_of_not_mem nonempty inside]
      simp [splitSegment_of_not_mem inside, plainLine, plainText]
  | @line body rest lines inside later ih =>
      obtain ⟨divides, ended⟩ := divides_splitSegment_newline inside
      have replaced := unifyEndings_line divides ended rest
      rw [List.append_assoc, List.singleton_append] at replaced
      rw [replaced, Text.segments_append_newline divides.inside, ih]
      simp [plainText, plainLine, ended]

/-- At every place the replaced texts have the same line exactly if the texts as
written do. -/
theorem getElem?_segments_unifyEndings_eq_iff {expected actual : Text} {place : Nat} :
    (Text.segments (unifyEndings expected))[place]? =
        (Text.segments (unifyEndings actual))[place]? ↔
      (plainLines expected)[place]? = (plainLines actual)[place]? := by
  rw [segments_unifyEndings, segments_unifyEndings, List.getElem?_map, List.getElem?_map]
  constructor
  · intro same
    cases first : (plainLines expected)[place]? with
    | none =>
        rw [first, Option.map_none, eq_comm, Option.map_eq_none_iff] at same
        exact same.symm
    | some line =>
        rw [first, Option.map_some, eq_comm, Option.map_eq_some_iff] at same
        obtain ⟨other, second, same⟩ := same
        have inside := newline_not_mem_plainLines (List.mem_of_getElem? first)
        have otherInside := newline_not_mem_plainLines (List.mem_of_getElem? second)
        rw [second, eq_of_plainText_eq otherInside inside same]
  · intro same
    rw [same]

/-! ## The comparison -/

/-- The first place at which two lists differ.  A list that has ended differs from
one that has not. -/
structure FirstDeparture {α : Type} (first second : List α) (place : Nat) : Prop where
  before : ∀ earlier < place, first[earlier]? = second[earlier]?
  differ : first[place]? ≠ second[place]?

theorem LongestCommonPrefix.getElem?_eq {α : Type} {first second common : List α}
    (longest : LongestCommonPrefix first second common) {place : Nat}
    (inside : place < common.length) : first[place]? = second[place]? := by
  obtain ⟨firstRest, rfl⟩ := longest.of_first
  obtain ⟨secondRest, rfl⟩ := longest.of_second
  rw [List.getElem?_append_left inside, List.getElem?_append_left inside]

theorem agree_normalizeLineEndings_iff {expected actual : Text} :
    agree .normalizeLineEndings expected actual = true ↔
      plainLines expected = plainLines actual := by
  rw [agree_iff]
  change unifyEndings expected = unifyEndings actual ↔ _
  rw [← Text.segments_injective.eq_iff, List.ext_getElem?_iff, List.ext_getElem?_iff]
  exact forall_congr' fun place => getElem?_segments_unifyEndings_eq_iff

/-- Modulo line endings two texts agree exactly if the lines as written agree in
their bodies and in whether an ending follows.  Otherwise the line number of the
mismatch is that of the first line as written in which they do not. -/
theorem normalized_comparison_follows_written_lines (expected actual : Text) :
    (agree .normalizeLineEndings expected actual = true ↔
      plainLines expected = plainLines actual) ∧
    (plainLines expected ≠ plainLines actual →
      ∃ mismatch place, firstMismatch .normalizeLineEndings expected actual = some mismatch ∧
        mismatch.line = place + 1 ∧
        FirstDeparture (plainLines expected) (plainLines actual) place) := by
  refine ⟨agree_normalizeLineEndings_iff, ?_⟩
  intro differ
  rw [ne_eq, ← agree_normalizeLineEndings_iff, agree_iff, ← firstMismatch_eq_none_iff] at differ
  obtain ⟨mismatch, found⟩ := Option.ne_none_iff_exists'.mp differ
  obtain ⟨common, longest, place, left, right, unequal⟩ := firstDifference_eq_some found
  refine ⟨mismatch, common.length, found, by omega, ?_, ?_⟩
  · intro earlier inside
    exact getElem?_segments_unifyEndings_eq_iff.mp (longest.getElem?_eq inside)
  · intro same
    apply unequal
    rw [left, right]
    exact getElem?_segments_unifyEndings_eq_iff.mpr same

end GoldenCheck.Diff
