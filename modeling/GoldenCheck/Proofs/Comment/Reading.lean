import GoldenCheck.Comment.Find
import GoldenCheck.Proofs.Text.CaseFold

/-!
# Reading one comment

The grammar of ignore comments is stated once, by `Reading.IsFor` and
`Reading.raw`, and the reader is proved to accept exactly what the grammar
allows.  The reader tries the longest gap in front of the tool first, and the
tool may begin with white space itself.  That the order of these attempts never
matters is `Anchored`: a text can be divided in one way only.
-/

namespace GoldenCheck.Comment

open GoldenCheck.Text (fold isBlank)

/-! ## The grammar -/

/-- The parts of a reading are those of an ignore comment for a tool. -/
structure Reading.IsFor (tool : Text) (reading : Reading) : Prop where
  toolGap_blank : ∀ c ∈ reading.toolGap, isBlank c = true
  tool_folded : reading.tool.map fold = tool.map fold
  wordGap_blank : ∀ c ∈ reading.wordGap, isBlank c = true
  word_ignore : reading.word.map Char.toLower = ignoreWord
  listed_open : ']' ∉ reading.listed
  listed_line : '\n' ∉ reading.listed

theorem Reading.IsFor.not_mem_word {tool : Text} {reading : Reading}
    (isFor : reading.IsFor tool) {c : Char} (outside : c.toLower ∉ ignoreWord) :
    c ∉ reading.word := by
  intro member
  apply outside
  rw [← isFor.word_ignore]
  exact List.mem_map_of_mem member

/-- The comment and the text after it, part by part. -/
theorem Reading.raw_append_rest (reading : Reading) :
    reading.raw ++ reading.rest =
      '#' :: (reading.toolGap ++ (reading.tool ++ ':' :: (reading.wordGap ++
        (reading.word ++ '[' :: (reading.listed ++ ']' :: reading.rest))))) := by
  simp [Reading.raw]

/-! ## Characters, words and lists -/

theorem readChar_eq_some_iff {expected : Char} {text rest : Text} :
    readChar expected text = some rest ↔ text = expected :: rest := by
  cases text with
  | nil => simp [readChar]
  | cons c text =>
      by_cases same : c = expected
      · simp [readChar, same]
      · simp [readChar, same]

/-- A word is split off exactly where the front of the text folds to it. -/
theorem readFolded_eq_some_iff {word text front rest : Text} :
    readFolded word text = some (front, rest) ↔
      front ++ rest = text ∧ front.map fold = word.map fold := by
  induction word generalizing text front with
  | nil =>
      rw [readFolded, Option.some.injEq, Prod.mk.injEq]
      constructor
      · rintro ⟨rfl, rfl⟩
        exact ⟨rfl, rfl⟩
      · rintro ⟨rfl, folded⟩
        obtain rfl := List.map_eq_nil_iff.mp folded
        exact ⟨rfl, rfl⟩
  | cons letter word ih =>
      cases text with
      | nil =>
          rw [readFolded]
          constructor
          · intro found
            contradiction
          · rintro ⟨empty, folded⟩
            obtain ⟨rfl, -⟩ := List.append_eq_nil_iff.mp empty
            simp at folded
      | cons c text =>
          rw [readFolded]
          constructor
          · intro found
            split at found
            · rename_i same
              obtain ⟨⟨tail, after⟩, inner, rebuilt⟩ := Option.map_eq_some_iff.mp found
              obtain ⟨rfl, rfl⟩ := Prod.mk.inj rebuilt
              obtain ⟨joined, folded⟩ := ih.mp inner
              rw [List.cons_append, joined, List.map_cons, List.map_cons, folded,
                Text.sameFold_iff.mp same]
              exact ⟨rfl, rfl⟩
            · contradiction
          · rintro ⟨joined, folded⟩
            cases front with
            | nil => simp at folded
            | cons d front =>
                rw [List.cons_append] at joined
                obtain ⟨rfl, rfl⟩ := List.cons.inj joined
                obtain ⟨head, tail⟩ := List.cons.inj folded
                rw [if_pos (Text.sameFold_iff.mpr head.symm), ih.mpr ⟨rfl, tail⟩]
                rfl

/-- A list is what stands before the first `]`, if no newline comes earlier. -/
theorem readListed_eq_some_iff {text listed rest : Text} :
    readListed text = some (listed, rest) ↔
      text = listed ++ ']' :: rest ∧ ']' ∉ listed ∧ '\n' ∉ listed := by
  induction text generalizing listed with
  | nil => simp [readListed]
  | cons c text ih =>
      rw [readListed]
      cases listed with
      | nil =>
          by_cases closing : c = ']'
          · simp [closing, eq_comm]
          · by_cases newline : c = '\n' <;> simp [closing, newline]
      | cons d listed =>
          rw [List.cons_append, List.cons.injEq, List.mem_cons, List.mem_cons]
          by_cases closing : c = ']'
          · subst closing
            constructor
            · intro found
              simp at found
            · rintro ⟨⟨rfl, _⟩, noBracket, _⟩
              exact absurd (Or.inl rfl) noBracket
          · by_cases newline : c = '\n'
            · subst newline
              constructor
              · intro found
                simp at found
              · rintro ⟨⟨rfl, _⟩, _, noNewline⟩
                exact absurd (Or.inl rfl) noNewline
            · rw [if_neg closing, if_neg newline, Option.map_eq_some_iff]
              constructor
              · rintro ⟨⟨found, after⟩, inner, rebuilt⟩
                obtain ⟨⟨rfl, rfl⟩, rfl⟩ := by simpa using rebuilt
                obtain ⟨shape, noBracket, noNewline⟩ := ih.mp inner
                simp [shape, noBracket, noNewline, Ne.symm closing, Ne.symm newline]
              · rintro ⟨⟨rfl, shape⟩, noBracket, noNewline⟩
                exact ⟨(listed, rest),
                  ih.mpr ⟨shape, (not_or.mp noBracket).2, (not_or.mp noNewline).2⟩, rfl⟩

/-! ## White space in front -/

/-- White space in front of what a reader accepts is never part of something
that it accepts too. -/
def Anchored {α : Type} (read : Text → Option α) : Prop :=
  ∀ gap rest first second, (∀ c ∈ gap, isBlank c = true) →
    read (gap ++ rest) = some first → read rest = some second → gap = []

private theorem afterBlanks_here {α : Type} {read : Text → Option α} {text blanks : Text}
    {result : α}
    (found : ((read text).map fun result => (([] : Text), result)) = some (blanks, result)) :
    (∀ c ∈ blanks, isBlank c = true) ∧ ∃ rest, blanks ++ rest = text ∧ read rest = some result := by
  obtain ⟨_, readAll, rebuilt⟩ := Option.map_eq_some_iff.mp found
  obtain ⟨rfl, rfl⟩ := Prod.mk.inj rebuilt
  exact ⟨by simp, text, rfl, readAll⟩

theorem afterBlanks_sound {α : Type} {read : Text → Option α} {text blanks : Text} {result : α}
    (found : afterBlanks read text = some (blanks, result)) :
    (∀ c ∈ blanks, isBlank c = true) ∧ ∃ rest, blanks ++ rest = text ∧ read rest = some result := by
  induction text generalizing blanks result with
  | nil => exact afterBlanks_here found
  | cons c text ih =>
      rw [afterBlanks] at found
      split at found
      · rename_i blank
        cases inner : afterBlanks read text with
        | none =>
            rw [inner] at found
            exact afterBlanks_here found
        | some pair =>
            rw [inner] at found
            obtain ⟨rfl, rfl⟩ := Prod.mk.inj (Option.some.inj found)
            obtain ⟨blanksBlank, rest, joined, readRest⟩ := ih inner
            refine ⟨?_, rest, by rw [List.cons_append, joined], readRest⟩
            exact List.forall_mem_cons.mpr ⟨blank, blanksBlank⟩
      · exact afterBlanks_here found

/-- The search does not fail where some division succeeds. -/
theorem afterBlanks_isSome {α : Type} {read : Text → Option α} {blanks rest : Text} {result : α}
    (blank : ∀ c ∈ blanks, isBlank c = true) (readRest : read rest = some result) :
    (afterBlanks read (blanks ++ rest)).isSome = true := by
  induction blanks with
  | nil =>
      cases rest with
      | nil => simp [afterBlanks, readRest]
      | cons c rest =>
          rw [List.nil_append, afterBlanks]
          split
          · cases afterBlanks read rest <;> simp [readRest]
          · simp [readRest]
  | cons c blanks ih =>
      obtain ⟨blankHead, blankTail⟩ := List.forall_mem_cons.mp blank
      obtain ⟨pair, found⟩ := Option.isSome_iff_exists.mp (ih blankTail)
      rw [List.cons_append, afterBlanks, if_pos blankHead, found]
      rfl

/-- If what follows the white space is anchored, the search finds every division. -/
theorem afterBlanks_eq_some_iff {α : Type} {read : Text → Option α} (anchored : Anchored read)
    {text blanks : Text} {result : α} :
    afterBlanks read text = some (blanks, result) ↔
      (∀ c ∈ blanks, isBlank c = true) ∧ ∃ rest, blanks ++ rest = text ∧ read rest = some result := by
  constructor
  · exact afterBlanks_sound
  · rintro ⟨blank, rest, rfl, readRest⟩
    obtain ⟨⟨others, otherResult⟩, found⟩ :=
      Option.isSome_iff_exists.mp (afterBlanks_isSome blank readRest)
    obtain ⟨othersBlank, otherRest, joined, readOther⟩ := afterBlanks_sound found
    -- Of two divisions of one text, one gap extends the other; anchoring closes the difference.
    have same : others = blanks ∧ otherRest = rest := by
      rcases List.append_eq_append_iff.mp joined with
        ⟨gap, rfl, rfl⟩ | ⟨gap, rfl, rfl⟩
      · have closed := anchored gap rest otherResult result
          (fun c member => blank c (List.mem_append_right _ member)) readOther readRest
        simp [closed]
      · have closed := anchored gap otherRest result otherResult
          (fun c member => othersBlank c (List.mem_append_right _ member)) readRest readOther
        simp [closed]
    obtain ⟨rfl, rfl⟩ := same
    rw [found, Option.some.inj (readOther.symm.trans readRest)]

/-! ## The word and its list -/

theorem isPlainLetter_ignoreWord : ∀ c ∈ ignoreWord, Text.isPlainLetter c = true :=
  List.all_eq_true.mp (by decide)

theorem map_fold_ignoreWord : ignoreWord.map fold = ignoreWord := by
  decide +kernel

theorem readIgnore_eq_some_iff {text word listed rest : Text} :
    readIgnore text = some (word, listed, rest) ↔
      text = word ++ '[' :: (listed ++ ']' :: rest) ∧
        word.map Char.toLower = ignoreWord ∧ ']' ∉ listed ∧ '\n' ∉ listed := by
  rw [readIgnore]
  constructor
  · intro found
    obtain ⟨⟨front, afterWord⟩, wordRead, found⟩ := Option.bind_eq_some_iff.mp found
    obtain ⟨afterBracket, bracketRead, found⟩ := Option.bind_eq_some_iff.mp found
    obtain ⟨⟨inside, after⟩, listRead, found⟩ := Option.bind_eq_some_iff.mp found
    obtain ⟨rfl, rfl, rfl⟩ : front = word ∧ inside = listed ∧ after = rest := by
      simpa using found
    obtain ⟨rfl, folded⟩ := readFolded_eq_some_iff.mp wordRead
    obtain rfl := readChar_eq_some_iff.mp bracketRead
    obtain ⟨rfl, noBracket, noNewline⟩ := readListed_eq_some_iff.mp listRead
    rw [map_fold_ignoreWord, Text.map_fold_eq_iff isPlainLetter_ignoreWord] at folded
    exact ⟨rfl, folded, noBracket, noNewline⟩
  · rintro ⟨rfl, lowered, noBracket, noNewline⟩
    have folded : word.map fold = ignoreWord.map fold := by
      rw [map_fold_ignoreWord, Text.map_fold_eq_iff isPlainLetter_ignoreWord, lowered]
    have wordRead := readFolded_eq_some_iff.mpr
      ⟨(rfl : word ++ '[' :: (listed ++ ']' :: rest) = _), folded⟩
    have listRead := readListed_eq_some_iff.mpr
      ⟨(rfl : listed ++ ']' :: rest = _), noBracket, noNewline⟩
    simp [wordRead, listRead, readChar]

/-- The word does not begin with white space. -/
theorem anchored_readIgnore : Anchored readIgnore := by
  rintro gap rest ⟨word, listed, after⟩ second blank found -
  obtain ⟨shape, lowered, -⟩ := readIgnore_eq_some_iff.mp found
  cases gap with
  | nil => rfl
  | cons c gap =>
      cases word with
      | nil => contradiction
      | cons d word =>
          obtain ⟨rfl, -⟩ := List.cons.inj shape
          have letter : c.toLower = 'i' := (List.cons.inj lowered).1
          have folded := (Text.fold_eq_iff_toLower_eq (by decide)).mpr letter
          rw [Text.fold_of_isBlank (blank c List.mem_cons_self)] at folded
          subst folded
          exact absurd (blank 'i' List.mem_cons_self) (by decide)

/-! ## The tool -/

/-- A word followed by `c` does not continue a copy of itself that a shift without
`c` has moved. -/
private theorem append_cons_ne_shift {word shift tail after : Text} {c : Char}
    (outside : c ∉ shift) (nonempty : shift ≠ []) :
    word ++ c :: tail ≠ shift ++ (word ++ after) := by
  -- The copy begins with the shift, so taking the shift off both sides leaves a shorter word.
  induction measured : word.length using Nat.strong_induction_on generalizing word with
  | _ size ih =>
      intro equal
      rcases List.append_eq_append_iff.mp equal with
        ⟨overhang, rfl, rest⟩ | ⟨shorter, rfl, rest⟩
      · cases overhang with
        | nil =>
            cases word with
            | nil => exact nonempty rfl
            | cons d word =>
                obtain ⟨rfl, -⟩ := List.cons.inj rest
                exact outside (by simp)
        | cons d overhang =>
            obtain ⟨rfl, -⟩ := List.cons.inj rest
            exact outside (by simp)
      · have smaller : shorter.length < size := by
          have positive := List.length_pos_iff.mpr nonempty
          rw [List.length_append] at measured
          omega
        exact ih shorter.length smaller rfl (by rw [← rest, List.append_assoc])

theorem readTool_eq_some_iff {tool text written wordGap word listed rest : Text} :
    readTool tool text = some (written, wordGap, word, listed, rest) ↔
      text = written ++ ':' :: (wordGap ++ (word ++ '[' :: (listed ++ ']' :: rest))) ∧
        written.map fold = tool.map fold ∧ (∀ c ∈ wordGap, isBlank c = true) ∧
        word.map Char.toLower = ignoreWord ∧ ']' ∉ listed ∧ '\n' ∉ listed := by
  rw [readTool]
  constructor
  · intro found
    obtain ⟨⟨front, afterTool⟩, toolRead, found⟩ := Option.bind_eq_some_iff.mp found
    obtain ⟨afterColon, colonRead, found⟩ := Option.bind_eq_some_iff.mp found
    obtain ⟨⟨gap, ignored, inside, after⟩, ignoreRead, found⟩ := Option.bind_eq_some_iff.mp found
    obtain ⟨rfl, rfl, rfl, rfl, rfl⟩ :
        front = written ∧ gap = wordGap ∧ ignored = word ∧ inside = listed ∧ after = rest := by
      simpa using found
    obtain ⟨rfl, folded⟩ := readFolded_eq_some_iff.mp toolRead
    obtain rfl := readChar_eq_some_iff.mp colonRead
    obtain ⟨blank, ignoreText, rfl, wordRead⟩ :=
      (afterBlanks_eq_some_iff anchored_readIgnore).mp ignoreRead
    obtain ⟨rfl, parts⟩ := readIgnore_eq_some_iff.mp wordRead
    exact ⟨rfl, folded, blank, parts⟩
  · rintro ⟨rfl, folded, blank, parts⟩
    have toolRead := readFolded_eq_some_iff.mpr
      ⟨(rfl : written ++ ':' :: (wordGap ++ (word ++ '[' :: (listed ++ ']' :: rest))) = _), folded⟩
    have ignoreRead : afterBlanks readIgnore (wordGap ++ (word ++ '[' :: (listed ++ ']' :: rest))) =
        some (wordGap, word, listed, rest) :=
      (afterBlanks_eq_some_iff anchored_readIgnore).mpr
        ⟨blank, _, rfl, readIgnore_eq_some_iff.mpr ⟨rfl, parts⟩⟩
    simp [toolRead, ignoreRead, readChar]

/-- The tool may begin with white space, but the colon after it fixes its place. -/
theorem anchored_readTool (tool : Text) : Anchored (readTool tool) := by
  rintro gap rest ⟨first, _, _, _, _⟩ ⟨second, _, _, _, _⟩ blank firstRead secondRead
  obtain ⟨firstShape, firstFolded, -⟩ := readTool_eq_some_iff.mp firstRead
  obtain ⟨rfl, secondFolded, -⟩ := readTool_eq_some_iff.mp secondRead
  by_contra nonempty
  have folded := congrArg (List.map fold) firstShape
  rw [List.map_append, List.map_append, List.map_append, firstFolded, secondFolded,
    Text.map_fold_of_blank blank, List.map_cons] at folded
  have noColon : fold ':' ∉ gap := fun member =>
    absurd (blank _ member) (by decide +kernel)
  exact append_cons_ne_shift noColon nonempty folded.symm

/-! ## The whole comment -/

/-- The reader accepts exactly the comments of the grammar. -/
theorem read?_eq_some_iff {tool text : Text} {reading : Reading} :
    read? tool text = some reading ↔
      reading.IsFor tool ∧ reading.raw ++ reading.rest = text := by
  obtain ⟨toolGap, written, wordGap, word, listed, rest⟩ := reading
  rw [Reading.raw_append_rest, read?]
  constructor
  · intro found
    obtain ⟨afterHash, hashRead, found⟩ := Option.bind_eq_some_iff.mp found
    obtain ⟨⟨gap, front, innerGap, ignored, inside, after⟩, gapRead, found⟩ :=
      Option.bind_eq_some_iff.mp found
    obtain ⟨rfl, rfl, rfl, rfl, rfl, rfl⟩ : gap = toolGap ∧ front = written ∧
        innerGap = wordGap ∧ ignored = word ∧ inside = listed ∧ after = rest := by
      simpa using found
    obtain rfl := readChar_eq_some_iff.mp hashRead
    obtain ⟨blank, toolText, rfl, toolRead⟩ :=
      (afterBlanks_eq_some_iff (anchored_readTool tool)).mp gapRead
    obtain ⟨rfl, folded, innerBlank, lowered, noBracket, noNewline⟩ :=
      readTool_eq_some_iff.mp toolRead
    exact ⟨⟨blank, folded, innerBlank, lowered, noBracket, noNewline⟩, rfl⟩
  · rintro ⟨⟨blank, folded, innerBlank, lowered, noBracket, noNewline⟩, rfl⟩
    have gapRead : afterBlanks (readTool tool) (toolGap ++ (written ++ ':' :: (wordGap ++
        (word ++ '[' :: (listed ++ ']' :: rest))))) =
          some (toolGap, written, wordGap, word, listed, rest) :=
      (afterBlanks_eq_some_iff (anchored_readTool tool)).mpr
        ⟨blank, _, rfl, readTool_eq_some_iff.mpr
          ⟨rfl, folded, innerBlank, lowered, noBracket, noNewline⟩⟩
    simp [gapRead, readChar]

end GoldenCheck.Comment
