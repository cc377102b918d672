import GoldenCheck.Proofs.Fixture.RoundTrip
import Mathlib.Data.Set.Function

/-!
# Texts and lists of lines

A text is its list of lines written one after the other, and it is written in no other
way: what a list of lines must satisfy so that cutting finds the same lines again can be
said line by line.  So texts correspond to such lists one to one.
-/

namespace GoldenCheck.Fixture

/-- A list of lines that a text can have.  Newlines stand in endings only, an ending
takes in the carriage return in front of its newline, and a line without an ending is
the last one and not empty. -/
structure AreLines (lines : List (Text × Ending)) : Prop where
  inside : ∀ line ∈ lines, '\n' ∉ line.1
  whole : ∀ line ∈ lines, line.2 = .lf → line.1.getLast? ≠ some '\r'
  ended : ∀ line ∈ lines.dropLast, line.2 ≠ .none
  filled : ∀ line ∈ lines, line.2 = .none → line.1 ≠ []

theorem areLines_nil : AreLines [] :=
  ⟨nofun, nofun, nofun, nofun⟩

/-- A line in front is one that can be divided off, and the only one if nothing ends it. -/
theorem areLines_cons_iff {body : Text} {ending : Ending} {lines : List (Text × Ending)} :
    AreLines ((body, ending) :: lines) ↔
      Divides (lineText (body, ending)) body ending ∧
        (ending = .none → body ≠ [] ∧ lines = []) ∧ AreLines lines := by
  constructor
  · rintro ⟨inside, whole, ended, filled⟩
    rw [List.forall_mem_cons] at inside whole filled
    refine ⟨⟨rfl, inside.1, whole.1⟩, ?_, inside.2, whole.2, ?_, filled.2⟩
    · intro unended
      refine ⟨filled.1 unended, ?_⟩
      cases lines with
      | nil => rfl
      | cons next lines => exact absurd unended (ended (body, ending) List.mem_cons_self)
    · intro line member
      apply ended line
      cases lines with
      | nil => contradiction
      | cons next lines => exact List.mem_cons_of_mem _ member
  · rintro ⟨⟨-, inside, whole⟩, last, rest⟩
    refine ⟨?_, ?_, ?_, ?_⟩
    · exact List.forall_mem_cons.mpr ⟨inside, rest.inside⟩
    · exact List.forall_mem_cons.mpr ⟨whole, rest.whole⟩
    · cases lines with
      | nil => nofun
      | cons next lines =>
          rw [List.dropLast_cons_cons, List.forall_mem_cons]
          refine ⟨?_, rest.ended⟩
          intro unended
          exact absurd (last unended).2 (List.cons_ne_nil next lines)
    · exact List.forall_mem_cons.mpr ⟨fun unended => (last unended).1, rest.filled⟩

/-- Cutting gives lines that a text can have. -/
theorem areLines_splitLines (text : Text) : AreLines (splitLines text) := by
  have shape := Text.segmented_segments text
  generalize Text.segments text = segments at shape
  induction shape with
  | nil => exact areLines_nil
  | @last body nonempty inside =>
      rw [splitLines_of_not_mem nonempty inside, areLines_cons_iff]
      exact ⟨⟨rfl, inside, nofun⟩, fun _ => ⟨nonempty, rfl⟩, areLines_nil⟩
  | @line body rest segments inside later ih =>
      obtain ⟨divides, ended⟩ := divides_splitSegment_newline inside
      have cut := splitLines_append divides ended rest
      rw [List.append_assoc, List.singleton_append] at cut
      rw [cut, areLines_cons_iff]
      exact ⟨⟨rfl, divides.inside, divides.whole⟩, fun unended => absurd unended ended, ih⟩

/-- Lines that a text can have are found again in the text that they make up. -/
theorem splitLines_flatten {lines : List (Text × Ending)} (areLines : AreLines lines) :
    splitLines (lines.map lineText).flatten = lines := by
  induction lines with
  | nil => rfl
  | cons line lines ih =>
      obtain ⟨body, ending⟩ := line
      obtain ⟨divides, last, rest⟩ := areLines_cons_iff.mp areLines
      rw [List.map_cons, List.flatten_cons]
      by_cases unended : ending = .none
      · obtain ⟨nonempty, rfl⟩ := last unended
        subst unended
        simpa [lineText, Ending.text] using splitLines_of_not_mem nonempty divides.inside
      · rw [splitLines_append divides unended, ih rest]

/-- Texts correspond to the lists of lines that satisfy `AreLines`: a text is cut into
exactly those lines of this kind that make it up, and every list of this kind is reached
from exactly one text. -/
theorem texts_correspond_to_lines :
    (∀ text lines, splitLines text = lines ↔
      AreLines lines ∧ (lines.map lineText).flatten = text) ∧
    Set.BijOn splitLines Set.univ {lines | AreLines lines} := by
  have cut (text : Text) (lines : List (Text × Ending)) : splitLines text = lines ↔
      AreLines lines ∧ (lines.map lineText).flatten = text := by
    constructor
    · rintro rfl
      exact ⟨areLines_splitLines text, flatten_splitLines text⟩
    · rintro ⟨areLines, rfl⟩
      exact splitLines_flatten areLines
  refine ⟨cut, fun text _ => areLines_splitLines text, ?_, ?_⟩
  · intro first _ second _ same
    rw [← flatten_splitLines first, same, flatten_splitLines second]
  · intro lines areLines
    exact ⟨_, Set.mem_univ _, splitLines_flatten areLines⟩

-- A carriage return belongs to the body unless the newline comes right after it.
example : splitLines "a\r\r\n\nb\r" =
    [("a\r".toList, .crlf), ([], .lf), ("b\r".toList, .none)] := by
  decide

end GoldenCheck.Fixture
