import GoldenCheck.Proofs.Text.Basic
import GoldenCheck.Text.CaseFold

/-!
# Laws of case folding

Two facts about the table are all that the comment reader relies on.  White space
folds to itself, so it is never taken for a letter or a colon.  Among the small
ASCII letters only `k` and `s` are the folded form of a character outside ASCII,
so a word without them matches exactly its ASCII spellings.
-/

namespace GoldenCheck.Text

theorem sameFold_iff {c d : Char} : sameFold c d = true ↔ fold c = fold d := by
  constructor
  · intro same
    rcases Bool.or_eq_true _ _ ▸ same with equal | folded
    · rw [eq_of_beq equal]
    · exact eq_of_beq folded
  · intro folded
    simp [sameFold, folded]

/-- A character folds to itself, or as a run that covers it says. -/
theorem fold_cases (c : Char) :
    fold c = c ∨
      ∃ run ∈ foldRuns, run.first ≤ c.toNat ∧ c.toNat ≤ run.last ∧
        fold c = Char.ofNat (run.target + (c.toNat - run.first)) := by
  rw [fold]
  cases found : foldRuns.findSome? fun run => run.apply? c.toNat with
  | none => exact Or.inl rfl
  | some code =>
      obtain ⟨run, member, applied⟩ := List.exists_of_findSome?_eq_some found
      unfold FoldRun.apply? at applied
      split at applied
      · rename_i covered
        obtain rfl := Option.some.inj applied
        exact Or.inr ⟨run, member, covered.1, covered.2.1, rfl⟩
      · contradiction

/-! ## White space -/

/-- No run of the table touches a range of white space. -/
theorem foldRuns_disjoint_blankRanges :
    ∀ run ∈ foldRuns, ∀ range ∈ blankRanges, run.last < range.1 ∨ range.2 < run.first := by
  decide +kernel

theorem exists_range_of_isBlank {c : Char} (blank : isBlank c = true) :
    ∃ range ∈ blankRanges, range.1 ≤ c.toNat ∧ c.toNat ≤ range.2 := by
  obtain ⟨range, member, within⟩ := List.any_eq_true.mp blank
  rw [Bool.and_eq_true, decide_eq_true_eq, decide_eq_true_eq] at within
  exact ⟨range, member, within⟩

/-- White space folds to itself. -/
theorem fold_of_isBlank {c : Char} (blank : isBlank c = true) : fold c = c := by
  obtain ⟨range, rangeMem, lower, upper⟩ := exists_range_of_isBlank blank
  rcases fold_cases c with same | ⟨run, runMem, first, last, _⟩
  · exact same
  · have apart := foldRuns_disjoint_blankRanges run runMem range rangeMem
    omega

theorem map_fold_of_blank {text : Text} (blank : ∀ c ∈ text, isBlank c = true) :
    text.map fold = text := by
  conv_rhs => rw [← List.map_id text]
  exact List.map_congr_left fun c member => fold_of_isBlank (blank c member)

/-! ## ASCII letters -/

/-- The small ASCII letters that no character outside ASCII folds to. -/
def isPlainLetter (c : Char) : Bool :=
  'a' ≤ c && c ≤ 'z' && c != 'k' && c != 's'

/-- Apart from the run of the capital ASCII letters, the runs start above ASCII and
lead above it, or to `k` or `s`. -/
theorem foldRuns_above_ascii :
    ∀ run ∈ foldRuns,
      (run.first = 0x41 ∧ run.last = 0x5a) ∨
        0x7a < run.first ∧
          (0x7a < run.target ∨
            run.first = run.last ∧ (run.target = 'k'.toNat ∨ run.target = 's'.toNat)) := by
  decide +kernel

theorem fold_capital {c : Char} (lower : 0x41 ≤ c.toNat) (upper : c.toNat ≤ 0x5a) :
    fold c = c.toLower := by
  have letters : ∀ code ∈ List.range' 0x41 26,
      fold (Char.ofNat code) = (Char.ofNat code).toLower := by
    decide +kernel
  have folded := letters c.toNat (by rw [List.mem_range'_1]; omega)
  rwa [Char.ofNat_toNat] at folded

theorem toLower_of_not_capital {c : Char} (outside : ¬(0x41 ≤ c.toNat ∧ c.toNat ≤ 0x5a)) :
    c.toLower = c :=
  dif_neg outside

theorem toNat_of_isPlainLetter {c : Char} (plain : isPlainLetter c = true) :
    0x61 ≤ c.toNat ∧ c.toNat ≤ 0x7a ∧ c.toNat ≠ 'k'.toNat ∧ c.toNat ≠ 's'.toNat := by
  simp only [isPlainLetter, Bool.and_eq_true, decide_eq_true_eq, bne_iff_ne] at plain
  obtain ⟨⟨⟨lower, upper⟩, notK⟩, notS⟩ := plain
  exact ⟨lower, upper, fun equal => notK (Char.toNat_inj.mp equal),
    fun equal => notS (Char.toNat_inj.mp equal)⟩

/-- Only the character zero stands for numbers that are no code points. -/
theorem toNat_eq_of_ofNat_eq {code : Nat} {c : Char} (positive : c.toNat ≠ 0)
    (equal : Char.ofNat code = c) : code = c.toNat := by
  subst equal
  by_cases valid : code.isValidChar
  · rw [Char.ofNat, dif_pos valid]
    rfl
  · rw [Char.ofNat, dif_neg valid] at positive
    exact absurd rfl positive

/-- A character folds to a plain letter exactly if it is that letter or its capital. -/
theorem fold_eq_iff_toLower_eq {c letter : Char} (plain : isPlainLetter letter = true) :
    fold c = letter ↔ c.toLower = letter := by
  obtain ⟨atLeast, atMost, notK, notS⟩ := toNat_of_isPlainLetter plain
  by_cases capital : 0x41 ≤ c.toNat ∧ c.toNat ≤ 0x5a
  · rw [fold_capital capital.1 capital.2]
  · rw [toLower_of_not_capital capital]
    rcases fold_cases c with same | ⟨run, member, first, last, folded⟩
    · rw [same]
    · rcases foldRuns_above_ascii run member with ascii | ⟨above, target⟩
      · omega
      · constructor
        · intro equal
          have code := toNat_eq_of_ofNat_eq (by omega) (folded.symm.trans equal)
          omega
        · rintro rfl
          omega

/-- The runs neither start nor lead below the letters. -/
theorem foldRuns_above_signs :
    ∀ run ∈ foldRuns, 0x41 ≤ run.first ∧ 0x41 ≤ run.target := by
  decide +kernel

/-- Only the sign itself folds to an ASCII sign below the letters. -/
theorem fold_eq_sign_iff {c sign : Char} (positive : sign.toNat ≠ 0) (low : sign.toNat < 0x41) :
    fold c = sign ↔ c = sign := by
  rcases fold_cases c with same | ⟨run, member, first, last, folded⟩
  · rw [same]
  · obtain ⟨startsAbove, leadsAbove⟩ := foldRuns_above_signs run member
    constructor
    · intro equal
      have code := toNat_eq_of_ofNat_eq positive (folded.symm.trans equal)
      omega
    · rintro rfl
      omega

/-- A word of plain letters is matched up to case by its ASCII spellings only. -/
theorem map_fold_eq_iff {text word : Text} (plain : ∀ c ∈ word, isPlainLetter c = true) :
    text.map fold = word ↔ text.map Char.toLower = word := by
  induction word generalizing text with
  | nil => simp
  | cons letter word ih =>
      obtain ⟨plainLetter, plainWord⟩ := List.forall_mem_cons.mp plain
      cases text with
      | nil => simp
      | cons c text =>
          simp only [List.map_cons, List.cons.injEq]
          exact and_congr (fold_eq_iff_toLower_eq plainLetter) (ih plainWord)

end GoldenCheck.Text
