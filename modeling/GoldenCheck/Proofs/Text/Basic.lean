import GoldenCheck.Text.Basic
import Mathlib.Data.List.Forall2
import Mathlib.Data.List.TakeWhile

/-!
# Laws of trimming, cutting and measuring

Trimming is pinned down by the relation `Trims`: white space is removed on both
sides and none is left at either end.  Cutting loses nothing: segments
concatenate to the text, pieces join to it, and a text can be cut in bytes at
every boundary of its characters.
-/

namespace GoldenCheck.Text

/-! ## White space -/

@[simp]
theorem cat_nil : cat [] = [] :=
  rfl

@[simp]
theorem cat_cons (part : Text) (parts : List Text) : cat (part :: parts) = part ++ cat parts :=
  rfl

theorem isBlankText_iff {text : Text} :
    isBlankText text = true ↔ ∀ c ∈ text, isBlank c = true :=
  List.all_eq_true

theorem not_mem_of_blank {text : Text} (blank : ∀ c ∈ text, isBlank c = true) {c : Char}
    (solid : isBlank c = false) : c ∉ text := by
  intro member
  rw [blank c member] at solid
  contradiction

/-- A text that neither begins nor ends with white space. -/
structure Tight (text : Text) : Prop where
  head : ∀ c, text.head? = some c → isBlank c = false
  last : ∀ c, text.getLast? = some c → isBlank c = false

/-- Only the empty text is blank without white space at its ends. -/
theorem Tight.isBlankText_iff {text : Text} (tight : Tight text) :
    isBlankText text = true ↔ text = [] := by
  constructor
  · intro blank
    cases text with
    | nil => rfl
    | cons c text =>
        have solid := tight.head c rfl
        rw [Text.isBlankText_iff.mp blank c List.mem_cons_self] at solid
        contradiction
  · rintro rfl
    rfl

/-- The second text is what remains of the first without the white space on
both sides. -/
def Trims (text trimmed : Text) : Prop :=
  Tight trimmed ∧
    ∃ front back, text = front ++ trimmed ++ back ∧
      (∀ c ∈ front, isBlank c = true) ∧ ∀ c ∈ back, isBlank c = true

theorem isBlank_of_mem_blankEnd {text : Text} {c : Char} (member : c ∈ blankEnd text) :
    isBlank c = true :=
  List.mem_takeWhile_imp (List.mem_reverse.mp member)

/-- What the removal of leading white space leaves begins with something else. -/
theorem isBlank_head?_trimStart {text : Text} {c : Char}
    (first : (trimStart text).head? = some c) : isBlank c = false := by
  have stopped := List.head?_dropWhile_not isBlank text
  rw [trimStart] at first
  rw [first] at stopped
  exact stopped

/-- What the removal of white space at the end leaves ends with something else. -/
theorem isBlank_getLast?_trimEnd {text : Text} {c : Char}
    (last : (trimEnd text).getLast? = some c) : isBlank c = false := by
  rw [trimEnd, List.getLast?_reverse] at last
  exact @isBlank_head?_trimStart text.reverse c last

/-- Removing white space at the end keeps the first character that is none. -/
theorem isBlank_head?_trimEnd {text : Text} (tight : ∀ c, text.head? = some c → isBlank c = false)
    {c : Char} (first : (trimEnd text).head? = some c) : isBlank c = false := by
  apply tight c
  rw [← trimEnd_append_blankEnd text, List.head?_append, first]
  rfl

/-- Trimming does what its relation says. -/
theorem trims_trim (text : Text) : Trims text (trim text) := by
  refine ⟨⟨fun c first => ?_, fun c last => isBlank_getLast?_trimEnd last⟩,
    text.takeWhile isBlank, blankEnd (trimStart text), ?_, ?_, ?_⟩
  · exact isBlank_head?_trimEnd (fun d => isBlank_head?_trimStart) first
  · rw [trim, List.append_assoc, trimEnd_append_blankEnd, trimStart,
      List.takeWhile_append_dropWhile]
  · intro c member
    exact List.mem_takeWhile_imp member
  · intro c member
    exact isBlank_of_mem_blankEnd member

theorem trimStart_append_of_blank {front : Text} (blank : ∀ c ∈ front, isBlank c = true)
    (text : Text) : trimStart (front ++ text) = trimStart text :=
  List.dropWhile_append_of_pos blank

theorem trimEnd_append_of_blank {back : Text} (blank : ∀ c ∈ back, isBlank c = true)
    (text : Text) : trimEnd (text ++ back) = trimEnd text := by
  have blank : ∀ c ∈ back.reverse, isBlank c = true := by simpa using blank
  rw [trimEnd, List.reverse_append, List.dropWhile_append_of_pos blank]
  rfl

theorem trimEnd_eq_self {text : Text} (tight : ∀ c, text.getLast? = some c → isBlank c = false) :
    trimEnd text = text := by
  rcases List.eq_nil_or_concat text with rfl | ⟨front, c, rfl⟩
  · rfl
  · have solid : ¬isBlank c = true := by simp [tight c (by simp)]
    rw [trimEnd, List.concat_eq_append, List.reverse_append, List.reverse_singleton,
      List.singleton_append, List.dropWhile_cons_of_neg solid]
    simp

/-- There is one way to trim a text. -/
theorem trim_eq_of_trims {text trimmed : Text} (trims : Trims text trimmed) :
    trim text = trimmed := by
  obtain ⟨tight, front, back, rfl, frontBlank, backBlank⟩ := trims
  rw [trim, List.append_assoc, trimStart_append_of_blank frontBlank]
  cases trimmed with
  | nil =>
      rw [List.nil_append, ← List.append_nil back, trimStart_append_of_blank backBlank]
      rfl
  | cons c trimmed =>
      have solid : ¬isBlank c = true := by simp [tight.head c rfl]
      rw [trimStart, List.cons_append, List.dropWhile_cons_of_neg solid, ← List.cons_append,
        trimEnd_append_of_blank backBlank, trimEnd_eq_self tight.last]

/-- Nothing is left of a text exactly if it is all white space. -/
theorem trim_eq_nil_iff {text : Text} : trim text = [] ↔ ∀ c ∈ text, isBlank c = true := by
  constructor
  · intro nothing
    rcases trims_trim text with ⟨-, front, back, shape, frontBlank, backBlank⟩
    rw [nothing, List.append_nil] at shape
    rw [shape]
    intro c member
    rcases List.mem_append.mp member with inFront | inBack
    · exact frontBlank c inFront
    · exact backBlank c inBack
  · intro blank
    apply trim_eq_of_trims
    exact ⟨⟨nofun, nofun⟩, text, [], by simp, blank, nofun⟩

/-! ## Pieces and segments -/

@[simp]
theorem flatten_consHead {α : Type} (first : α) (pieces : List (List α)) :
    (consHead first pieces).flatten = first :: pieces.flatten := by
  cases pieces <;> rfl

/-- The pieces are those of the library's cut at a separator. -/
theorem pieces_eq_splitOn {α : Type} [DecidableEq α] (separator : α) (text : List α) :
    pieces separator text = text.splitOn separator := by
  induction text with
  | nil => rfl
  | cons first rest ih =>
      rw [pieces, List.splitOn_cons_eq_if_modifyHead, ih]
      by_cases found : first = separator
      · simp [found]
      · obtain ⟨piece, later, shape⟩ :=
          List.exists_cons_of_ne_nil (List.splitOn_ne_nil separator rest)
        simp [found, shape, consHead]

theorem pieces_ne_nil {α : Type} [DecidableEq α] (separator : α) (text : List α) :
    pieces separator text ≠ [] := by
  rw [pieces_eq_splitOn]
  exact List.splitOn_ne_nil separator text

theorem pieces_of_not_mem {α : Type} [DecidableEq α] {separator : α} {text : List α}
    (absent : separator ∉ text) : pieces separator text = [text] := by
  rw [pieces_eq_splitOn]
  exact List.splitOn_eq_singleton absent

/-- What stands in a piece stands in the text, and is no separator. -/
theorem mem_of_mem_pieces {α : Type} [DecidableEq α] {separator element : α}
    {text piece : List α} (cut : piece ∈ pieces separator text) (member : element ∈ piece) :
    element ∈ text ∧ element ≠ separator := by
  induction text generalizing piece with
  | nil =>
      obtain rfl := List.mem_singleton.mp cut
      contradiction
  | cons first rest ih =>
      rw [pieces] at cut
      split at cut
      · rcases List.mem_cons.mp cut with rfl | later
        · contradiction
        · obtain ⟨inside, other⟩ := ih later member
          exact ⟨List.mem_cons_of_mem first inside, other⟩
      · rename_i notSeparator
        obtain ⟨head, tail, shape⟩ := List.exists_cons_of_ne_nil (pieces_ne_nil separator rest)
        rw [shape] at cut ih
        have inRest {other : List α} (isPiece : other ∈ head :: tail) (inside : element ∈ other) :
            element ∈ first :: rest ∧ element ≠ separator :=
          ⟨List.mem_cons_of_mem first (ih isPiece inside).1, (ih isPiece inside).2⟩
        rcases List.mem_cons.mp cut with rfl | later
        · rcases List.mem_cons.mp member with rfl | inside
          · exact ⟨List.mem_cons_self, notSeparator⟩
          · exact inRest List.mem_cons_self inside
        · exact inRest (List.mem_cons_of_mem head later) member

/-- What holds in every piece holds everywhere but at the separators. -/
theorem forall_mem_pieces_iff {α : Type} [DecidableEq α] {separator : α} {holds : α → Prop}
    {text : List α} :
    (∀ piece ∈ pieces separator text, ∀ element ∈ piece, holds element) ↔
      ∀ element ∈ text, holds element ∨ element = separator := by
  constructor
  · intro inPieces
    induction text with
    | nil => nofun
    | cons first rest ih =>
        rw [pieces] at inPieces
        rw [List.forall_mem_cons]
        split at inPieces
        · rename_i found
          exact ⟨.inr found, ih (List.forall_mem_cons.mp inPieces).2⟩
        · rcases List.exists_cons_of_ne_nil (pieces_ne_nil separator rest) with
            ⟨head, tail, shape⟩
          rw [shape] at inPieces ih
          rcases List.forall_mem_cons.mp inPieces with ⟨inHead, inTail⟩
          rcases List.forall_mem_cons.mp inHead with ⟨here, inHead⟩
          exact ⟨.inl here, ih (List.forall_mem_cons.mpr ⟨inHead, inTail⟩)⟩
  · intro inText piece cut element member
    rcases mem_of_mem_pieces cut member with ⟨inside, other⟩
    exact (inText element inside).resolve_right other

theorem length_pieces {α : Type} [DecidableEq α] (separator : α) (text : List α) :
    (pieces separator text).length = List.count separator text + 1 := by
  induction text with
  | nil => rfl
  | cons first rest ih =>
      rw [pieces]
      split
      · rename_i found
        rw [List.length_cons, ih, found, List.count_cons_self]
      · rename_i other
        rcases List.exists_cons_of_ne_nil (pieces_ne_nil separator rest) with
          ⟨head, tail, shape⟩
        rw [List.count_cons_of_ne other, ← ih, shape]
        rfl

/-- The pieces on both sides of a separator. -/
theorem pieces_append_cons {α : Type} [DecidableEq α] (separator : α) (front back : List α) :
    pieces separator (front ++ separator :: back) =
      pieces separator front ++ pieces separator back := by
  simp only [pieces_eq_splitOn]
  exact List.splitOn_append_cons_self front back

/-- What stands in front of the first separator belongs to the first piece. -/
theorem pieces_append_of_not_mem {α : Type} [DecidableEq α] {separator : α}
    {front back piece : List α} {later : List (List α)} (absent : separator ∉ front)
    (cut : pieces separator back = piece :: later) :
    pieces separator (front ++ back) = (front ++ piece) :: later := by
  induction front with
  | nil => exact cut
  | cons first front ih =>
      have other : first ≠ separator := (List.ne_of_not_mem_cons absent).symm
      rw [List.cons_append, pieces, if_neg other, ih (List.not_mem_of_not_mem_cons absent)]
      rfl

/-- The pieces with a separator after each of them make up the text with one more. -/
theorem flatMap_pieces {α : Type} [DecidableEq α] (separator : α) (text : List α) :
    (pieces separator text).flatMap (fun piece => piece ++ [separator]) = text ++ [separator] := by
  induction text with
  | nil => rfl
  | cons first rest ih =>
      rw [pieces]
      split
      · rename_i found
        rw [List.flatMap_cons, ih, found]
        rfl
      · obtain ⟨piece, later, shape⟩ := List.exists_cons_of_ne_nil (pieces_ne_nil separator rest)
        rw [shape] at ih ⊢
        exact congrArg (first :: ·) ih

/-- The pieces join to the text. -/
theorem join_pieces {α : Type} [DecidableEq α] (separator : α) (text : List α) :
    join [separator] (pieces separator text) = text := by
  rw [join, pieces_eq_splitOn]
  exact List.intercalate_splitOn separator

/-- Parts that hold no separator are the pieces of what they join to. -/
theorem pieces_join {α : Type} [DecidableEq α] {separator : α} {parts : List (List α)}
    (closed : ∀ part ∈ parts, separator ∉ part) (nonempty : parts ≠ []) :
    pieces separator (join [separator] parts) = parts := by
  rw [join, pieces_eq_splitOn]
  exact List.splitOn_intercalate separator closed nonempty

/-- The pieces concatenate to the text without its separators. -/
theorem flatten_pieces {α : Type} [DecidableEq α] (separator : α) (text : List α) :
    (pieces separator text).flatten = text.filter (· ≠ separator) := by
  induction text with
  | nil => rfl
  | cons first rest ih =>
      rw [pieces]
      split
      · rename_i found
        simpa [found] using ih
      · rename_i other
        simpa [other] using ih

/-- A separator at either end of a text cuts off an empty piece. -/
theorem not_at_ends_of_pieces {α : Type} [DecidableEq α] {separator : α} {text : List α}
    (solid : [] ∉ pieces separator text) :
    text.head? ≠ some separator ∧ text.getLast? ≠ some separator := by
  constructor
  · intro atFront
    rcases List.head?_eq_some_iff.mp atFront with ⟨rest, rfl⟩
    apply solid
    simp [pieces]
  · intro atEnd
    rcases List.getLast?_eq_some_iff.mp atEnd with ⟨front, rfl⟩
    apply solid
    simp [pieces_append_cons, pieces]

theorem commaList_cons_cons (first second : Text) (rest : List Text) :
    commaList (first :: second :: rest) = first ++ ',' :: ' ' :: commaList (second :: rest) := by
  simp [commaList, join, List.intercalate_cons_cons]

/-- A list of names without commas is cut into the names, all but the first with a
space in front. -/
theorem pieces_commaList {first : Text} {rest : List Text}
    (closed : ∀ name ∈ first :: rest, ',' ∉ name) :
    pieces ',' (commaList (first :: rest)) = first :: rest.map (' ' :: ·) := by
  induction rest generalizing first with
  | nil => simpa [commaList, join] using pieces_of_not_mem (closed first List.mem_cons_self)
  | cons second rest ih =>
      obtain ⟨closedFirst, closedRest⟩ := List.forall_mem_cons.mp closed
      rw [commaList_cons_cons, pieces_append_cons, pieces_of_not_mem closedFirst, pieces,
        if_neg (by decide), ih closedRest]
      rfl

theorem mem_commaList {names : List Text} {c : Char} (member : c ∈ commaList names) :
    c = ',' ∨ c = ' ' ∨ ∃ name ∈ names, c ∈ name := by
  induction names with
  | nil => simp [commaList, join] at member
  | cons first rest ih =>
      cases rest with
      | nil =>
          have inFirst : c ∈ first := by simpa [commaList, join] using member
          exact .inr (.inr ⟨first, List.mem_cons_self, inFirst⟩)
      | cons second rest =>
          rw [commaList_cons_cons, List.mem_append, List.mem_cons, List.mem_cons] at member
          rcases member with inFirst | isComma | isSpace | later
          · exact .inr (.inr ⟨first, List.mem_cons_self, inFirst⟩)
          · exact .inl isComma
          · exact .inr (.inl isSpace)
          · rcases ih later with isComma | isSpace | ⟨name, listed, inside⟩
            · exact .inl isComma
            · exact .inr (.inl isSpace)
            · exact .inr (.inr ⟨name, List.mem_cons_of_mem first listed, inside⟩)

/-- Segments concatenate to the text. -/
@[simp]
theorem flatten_segments (text : Text) : (segments text).flatten = text := by
  induction text with
  | nil => rfl
  | cons c rest ih =>
      rw [segments]
      split <;> simp [ih]

/-- Two texts with the same segments are the same text. -/
theorem segments_injective : Function.Injective segments := by
  intro first second same
  rw [← flatten_segments first, same, flatten_segments]

/-- The lines of a text with their newlines: every line but the last ends in its
only newline, and the last is not empty. -/
inductive Segmented : Text → List Text → Prop where
  | nil : Segmented [] []
  | last {body : Text} (nonempty : body ≠ []) (inside : '\n' ∉ body) : Segmented body [body]
  | line {body rest : Text} {lines : List Text} (inside : '\n' ∉ body)
      (later : Segmented rest lines) :
      Segmented (body ++ '\n' :: rest) ((body ++ ['\n']) :: lines)

/-- A character in front of a text goes to the front of its first line. -/
theorem Segmented.consHead {c : Char} {text : Text} {lines : List Text} (notNewline : c ≠ '\n')
    (segmented : Segmented text lines) : Segmented (c :: text) (consHead c lines) := by
  cases segmented with
  | nil => exact .last (by simp) (by simpa using notNewline.symm)
  | last nonempty inside => exact .last (by simp) (by simp [notNewline.symm, inside])
  | @line body rest lines inside later =>
      have inside : '\n' ∉ c :: body := by simp [notNewline.symm, inside]
      exact .line inside later

/-- A line holds a newline at its end or nowhere. -/
theorem Segmented.not_mem_dropLast {text line : Text} {lines : List Text}
    (segmented : Segmented text lines) (member : line ∈ lines) : '\n' ∉ line.dropLast := by
  induction segmented with
  | nil => contradiction
  | last _ inside =>
      obtain rfl := List.mem_singleton.mp member
      intro newline
      exact inside (List.dropLast_subset line newline)
  | line inside _ ih =>
      rcases List.mem_cons.mp member with rfl | member
      · rwa [List.dropLast_concat]
      · exact ih member

theorem segmented_segments (text : Text) : Segmented text (segments text) := by
  induction text with
  | nil => exact .nil
  | cons c rest ih =>
      rw [segments]
      split
      · rename_i newline
        subst newline
        exact @Segmented.line [] rest _ List.not_mem_nil ih
      · rename_i notNewline
        exact ih.consHead notNewline

theorem segments_of_not_mem {body : Text} (nonempty : body ≠ []) (inside : '\n' ∉ body) :
    segments body = [body] := by
  induction body with
  | nil => contradiction
  | cons c body ih =>
      rw [List.mem_cons, not_or] at inside
      obtain ⟨notNewline, inside⟩ := inside
      rw [segments, if_neg (Ne.symm notNewline)]
      cases body with
      | nil => rfl
      | cons d body =>
          rw [ih (by simp) inside]
          rfl

theorem segments_append_newline {body : Text} (inside : '\n' ∉ body) (rest : Text) :
    segments (body ++ '\n' :: rest) = (body ++ ['\n']) :: segments rest := by
  induction body with
  | nil => simp [segments]
  | cons c body ih =>
      rw [List.mem_cons, not_or] at inside
      obtain ⟨notNewline, inside⟩ := inside
      rw [List.cons_append, segments, if_neg (Ne.symm notNewline), ih inside]
      rfl

/-- A text has its segments as lines, and no other lines. -/
theorem segmented_iff {text : Text} {lines : List Text} :
    Segmented text lines ↔ lines = segments text := by
  constructor
  · intro segmented
    induction segmented with
    | nil => rfl
    | last nonempty inside => exact (segments_of_not_mem nonempty inside).symm
    | line inside _ ih => rw [segments_append_newline inside, ih]
  · rintro rfl
    exact segmented_segments text

theorem isSuffixOf?_eq_none_iff {ending text : Text} :
    ending.isSuffixOf? text = none ↔ ¬ending <:+ text := by
  rw [← Option.not_isSome_iff_eq_none, List.isSome_isSuffixOf?_eq_isSuffixOf,
    List.isSuffixOf_iff_suffix]

/-! ## Bytes -/

/-- A text can be cut where some of its characters end. -/
theorem cutAtByte?_byteLength_append (front back : Text) :
    cutAtByte? (byteLength front) (front ++ back) = some (front, back) := by
  induction front with
  | nil => cases back <;> rfl
  | cons c front ih =>
      have positive : 0 < c.utf8Size := Char.utf8Size_pos c
      obtain ⟨size, measured⟩ : ∃ size, byteLength (c :: front) = size + 1 :=
        ⟨c.utf8Size + byteLength front - 1, by rw [byteLength_cons]; omega⟩
      have fits : c.utf8Size ≤ size + 1 := by rw [← measured, byteLength_cons]; omega
      have remaining : size + 1 - c.utf8Size = byteLength front := by
        rw [← measured, byteLength_cons]; omega
      rw [measured, List.cons_append, cutAtByte?, if_pos fits, remaining, ih]
      rfl

end GoldenCheck.Text
