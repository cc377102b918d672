import GoldenCheck.Proofs.Fixture.RoundTrip

/-!
# Header lines

A header is recognised on exactly those lines that consist of `#` and one word,
with white space around the word at most, where the word is the path of a Python
file.  Only the first line of a text is looked at, and it is a header whenever it
has that form, whatever else it may be.
-/

namespace GoldenCheck.Fixture

open GoldenCheck.Text (isBlank)

/-- The body of a line is `#` and one word, and the word is the path of a Python
file. -/
structure NamesFile (body word : Text) : Prop where
  shape : ∃ front back, body = '#' :: (front ++ word ++ back) ∧
    (∀ c ∈ front, isBlank c = true) ∧ ∀ c ∈ back, isBlank c = true
  filled : word ≠ []
  solid : ∀ c ∈ word, isBlank c = false
  python : (Path.ofText word).isPython = true

/-- A word without white space is tight. -/
theorem NamesFile.tight {body word : Text} (names : NamesFile body word) : Text.Tight word where
  head := by
    intro c first
    exact names.solid c (List.mem_of_head? first)
  last := by
    intro c last
    exact names.solid c (List.mem_of_getLast? last)

theorem NamesFile.trim_eq {body rest word : Text} (names : NamesFile body word)
    (body_eq : body = '#' :: rest) : Text.trim rest = word := by
  obtain ⟨front, back, shape, frontBlank, backBlank⟩ := names.shape
  obtain ⟨-, rfl⟩ := List.cons.inj (body_eq.symm.trans shape)
  exact Text.trim_eq_of_trims ⟨names.tight, front, back, rfl, frontBlank, backBlank⟩

/-- A line is recognised exactly if it names a file. -/
theorem Header.detect_eq_some_iff {body : Text} {ending : Ending} {header : Header} :
    detect body ending = some header ↔
      ∃ word, NamesFile body word ∧ header = ⟨Path.ofText word, body, ending⟩ := by
  constructor
  · intro detected
    unfold detect at detected
    split at detected
    · rename_i rest
      dsimp only at detected
      split at detected
      · contradiction
      · rename_i accepted
        simp only [Bool.or_eq_true, not_or, Bool.not_eq_true, Bool.not_eq_false,
          List.isEmpty_eq_false_iff, List.any_eq_false, Bool.not_eq_true'] at accepted
        obtain ⟨⟨filled, solid⟩, python⟩ := accepted
        obtain ⟨-, front, back, shape, blank⟩ := Text.trims_trim rest
        refine ⟨Text.trim rest, ⟨⟨front, back, ?_, blank⟩, filled, ?_, python⟩, ?_⟩
        · rw [← shape]
        · intro c member
          simpa using solid c member
        · exact (Option.some.inj detected).symm
    · contradiction
  · rintro ⟨word, names, rfl⟩
    obtain ⟨front, back, shape, -⟩ := names.shape
    have trimmed := names.trim_eq shape
    rw [shape, detect, trimmed]
    simpa [names.filled, names.python] using names.solid

theorem Header.isSome_detect_iff {body : Text} {ending : Ending} :
    (detect body ending).isSome = true ↔ ∃ word, NamesFile body word := by
  rw [Option.isSome_iff_exists]
  simp only [Header.detect_eq_some_iff]
  constructor
  · rintro ⟨_, word, names, -⟩
    exact ⟨word, names⟩
  · rintro ⟨word, names⟩
    exact ⟨_, word, names, rfl⟩

/-- A fixture has a header exactly if the first line of its text names a file. -/
theorem isSome_header_parse_iff {path : Path} {tool text : Text} :
    (parse path tool text).header.isSome = true ↔
      ∃ body ending word, (splitLines text)[0]? = some (body, ending) ∧ NamesFile body word := by
  rw [header_parse, splitHeader_fst]
  cases (splitLines text)[0]? with
  | none => simp
  | some line =>
      obtain ⟨body, ending⟩ := line
      rw [Option.bind_some, Header.isSome_detect_iff]
      simp

end GoldenCheck.Fixture
