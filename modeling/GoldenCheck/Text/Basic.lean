import GoldenCheck.Text.Blank

/-!
# Texts

A text is a list of characters.  This module trims texts, cuts them at a
separator or after each newline, and measures and cuts them in UTF-8 bytes.
-/

namespace GoldenCheck

/-- A text: a finite sequence of Unicode characters. -/
abbrev Text := List Char

/-- A string literal may stand for its text. -/
instance : Coe String Text := ⟨String.toList⟩

namespace Text

/-- Concatenate the parts of a message. -/
def cat (parts : List Text) : Text :=
  parts.flatten

/-- A text between two backticks, as messages cite it. -/
def cite (text : Text) : Text :=
  cat ["`", text, "`"]

/-! ## Trimming -/

/-- Whether a text holds nothing but white space. -/
def isBlankText (text : Text) : Bool :=
  text.all isBlank

/-- Drop the white space at the front. -/
def trimStart (text : Text) : Text :=
  text.dropWhile isBlank

/-- Drop the white space at the end. -/
def trimEnd (text : Text) : Text :=
  (text.reverse.dropWhile isBlank).reverse

/-- The white space at the end. -/
def blankEnd (text : Text) : Text :=
  (text.reverse.takeWhile isBlank).reverse

/-- Drop the white space on both sides. -/
def trim (text : Text) : Text :=
  trimEnd (trimStart text)

@[simp]
theorem trimEnd_append_blankEnd (text : Text) :
    trimEnd text ++ blankEnd text = text := by
  unfold trimEnd blankEnd
  rw [← List.reverse_append, List.takeWhile_append_dropWhile, List.reverse_reverse]

/-! ## Cutting -/

/-- Put an element in front of the first piece of a list of pieces. -/
def consHead {α : Type} (first : α) : List (List α) → List (List α)
  | [] => [[first]]
  | piece :: pieces => (first :: piece) :: pieces

/-- The pieces of a list between the occurrences of a separator.  There is one
piece more than there are separators. -/
def pieces {α : Type} [DecidableEq α] (separator : α) : List α → List (List α)
  | [] => [[]]
  | first :: rest =>
      if first = separator then
        [] :: pieces separator rest
      else
        consHead first (pieces separator rest)

/-- Join pieces with a separator between neighbours. -/
def join {α : Type} (separator : List α) (parts : List (List α)) : List α :=
  separator.intercalate parts

/-- A list of names with `, ` between neighbours. -/
def commaList (names : List Text) : Text :=
  join ", " names

/-- Cut a text after each newline.  No segment is empty, and the segments
concatenate to the text. -/
def segments : Text → List Text
  | [] => []
  | c :: rest => if c = '\n' then [c] :: segments rest else consHead c (segments rest)

/-! ## Measuring -/

/-- The number of bytes of a text in UTF-8. -/
def byteLength : Text → Nat
  | [] => 0
  | c :: rest => c.utf8Size + byteLength rest

@[simp]
theorem byteLength_nil : byteLength [] = 0 :=
  rfl

@[simp]
theorem byteLength_cons (c : Char) (rest : Text) :
    byteLength (c :: rest) = c.utf8Size + byteLength rest :=
  rfl

@[simp]
theorem byteLength_append (first second : Text) :
    byteLength (first ++ second) = byteLength first + byteLength second := by
  induction first with
  | nil => simp
  | cons c rest inductionHypothesis =>
      simp only [List.cons_append, byteLength_cons, inductionHypothesis]
      omega

/-- Cut a text after so many bytes.  There must be that many, and the cut must not
fall inside a character. -/
def cutAtByte? : Nat → Text → Option (Text × Text)
  | 0, text => some ([], text)
  | _ + 1, [] => none
  | size + 1, c :: rest =>
      if c.utf8Size ≤ size + 1 then
        (cutAtByte? (size + 1 - c.utf8Size) rest).map fun (front, back) => (c :: front, back)
      else
        none

/-- The two parts of a cut are the text, and the first has the size asked for. -/
theorem append_of_cutAtByte? {size : Nat} {text front back : Text}
    (cut : cutAtByte? size text = some (front, back)) :
    front ++ back = text ∧ byteLength front = size := by
  induction text generalizing size front back with
  | nil =>
      cases size with
      | zero => simp_all [cutAtByte?]
      | succ size => simp [cutAtByte?] at cut
  | cons c rest inductionHypothesis =>
      cases size with
      | zero => simp_all [cutAtByte?]
      | succ size =>
          rw [cutAtByte?] at cut
          split at cut
          · obtain ⟨⟨tail, after⟩, inner, rebuilt⟩ := Option.map_eq_some_iff.1 cut
            obtain ⟨rfl, rfl⟩ := Prod.mk.inj rebuilt
            obtain ⟨joined, measured⟩ := inductionHypothesis inner
            refine ⟨?_, ?_⟩
            · rw [List.cons_append, joined]
            · rw [byteLength_cons, measured]
              omega
          · exact absurd cut (by simp)

end Text

end GoldenCheck
