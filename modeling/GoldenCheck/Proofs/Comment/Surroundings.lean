import GoldenCheck.Proofs.Comment.Find

/-!
# A comment and the text around it

What is found in a line is found in every longer line.  Text in front of it moves it,
and can add a comment only with a `#` of its own.  Text after it could complete an
earlier comment, but that comment would enclose the one that was found, and no comment
encloses another for the same tool: the inner `]` would have to stand in the tool of the
outer one, which is then longer than the tool of the inner one.
-/

namespace GoldenCheck.Comment

open GoldenCheck.Text (isBlank)

/-! ## No comment encloses another -/

/-- A comment from the colon to its list, without the closing bracket. -/
def Reading.afterTool (reading : Reading) : Text :=
  ':' :: (reading.wordGap ++ (reading.word ++ '[' :: reading.listed))

theorem Reading.raw_eq_append_afterTool (reading : Reading) :
    reading.raw =
      '#' :: (reading.toolGap ++ (reading.tool ++ (reading.afterTool ++ [']']))) := by
  simp [raw, afterTool]

namespace Reading.IsFor

variable {tool : Text} {reading : Reading}

theorem length_tool (isFor : reading.IsFor tool) : reading.tool.length = tool.length := by
  simpa using congrArg List.length isFor.tool_folded

/-- After the tool a comment has no closing bracket but its last character. -/
theorem closing_not_mem_afterTool (isFor : reading.IsFor tool) : ']' ∉ reading.afterTool := by
  have noGap : ']' ∉ reading.wordGap := Text.not_mem_of_blank isFor.wordGap_blank (by decide)
  have noWord : ']' ∉ reading.word := isFor.not_mem_word (by decide)
  simp [afterTool, noGap, noWord, isFor.listed_open]

/-- The white space before the tool ends in front of every `#`. -/
theorem toolGap_in_front (isFor : reading.IsFor tool) {after front back : Text}
    (shape : reading.toolGap ++ after = front ++ '#' :: back) :
    ∃ middle, front = reading.toolGap ++ middle := by
  rcases List.append_eq_append_iff.mp shape with ⟨middle, inFront, -⟩ | ⟨overhang, gap, sign⟩
  · exact ⟨middle, inFront⟩
  · cases overhang with
    | nil => exact ⟨[], by rw [gap, List.append_nil, List.append_nil]⟩
    | cons c overhang =>
        obtain ⟨rfl, -⟩ := List.cons.inj sign
        exact absurd (isFor.toolGap_blank '#' (by simp [gap])) (by decide)

end Reading.IsFor

/-- A comment that begins before another for the same tool does not end after it. -/
theorem Reading.IsFor.not_encloses {tool : Text} {outer inner : Reading}
    (outerFor : outer.IsFor tool) (innerFor : inner.IsFor tool) {front back : Text}
    (begins : front ≠ []) (ends : back ≠ []) : outer.raw ≠ front ++ (inner.raw ++ back) := by
  intro shape
  obtain ⟨c, front, rfl⟩ := List.exists_cons_of_ne_nil begins
  rw [outer.raw_eq_append_afterTool, inner.raw_eq_append_afterTool, List.cons_append] at shape
  obtain ⟨-, shape⟩ := List.cons.inj shape
  obtain ⟨middle, rfl⟩ := outerFor.toolGap_in_front shape
  rw [List.append_assoc] at shape
  have shape := List.append_cancel_left shape
  -- Either the inner bracket comes after the outer tool, or that tool holds the inner one.
  have upToBracket : outer.tool ++ (outer.afterTool ++ [']']) =
      (middle ++ '#' :: (inner.toolGap ++ (inner.tool ++ inner.afterTool))) ++ ']' :: back := by
    rw [shape]
    simp
  rcases List.append_eq_append_iff.mp upToBracket with
    ⟨listed, -, closing⟩ | ⟨overhang, holds, -⟩
  · have inside : outer.afterTool = listed ++ ']' :: back.dropLast := by
      have dropped := congrArg List.dropLast closing
      rwa [List.dropLast_concat, List.dropLast_append_of_ne_nil (by simp),
        List.dropLast_cons_of_ne_nil ends] at dropped
    exact outerFor.closing_not_mem_afterTool (by simp [inside])
  · have longer := congrArg List.length holds
    simp only [List.length_append, List.length_cons, outerFor.length_tool,
      innerFor.length_tool] at longer
    omega

/-! ## Text after a comment -/

/-- What follows a comment has no part in it. -/
theorem Reading.IsFor.withRest {tool : Text} {reading : Reading} (isFor : reading.IsFor tool)
    (rest : Text) : Reading.IsFor tool { reading with rest := rest } :=
  ⟨isFor.toolGap_blank, isFor.tool_folded, isFor.wordGap_blank, isFor.word_ignore,
    isFor.listed_open, isFor.listed_line⟩

section After

variable {tool line before : Text} {reading : Reading}

/-- An occurrence stays one when the line goes on. -/
theorem Occurs.append (occurs : Occurs tool line before reading) (more : Text) :
    Occurs tool (line ++ more) before { reading with rest := reading.rest ++ more } := by
  obtain ⟨isFor, rfl⟩ := occurs
  refine ⟨isFor.withRest _, ?_⟩
  simp [Reading.raw]

/-- What begins before an occurrence when the line goes on is there before that. -/
theorem Occurs.of_append (occurs : Occurs tool line before reading) {more earlier : Text}
    {other : Reading} (occursOther : Occurs tool (line ++ more) earlier other)
    (early : earlier.length < before.length) : ∃ kept, Occurs tool line earlier kept := by
  have line_eq := occursOther.line_eq
  rw [← List.append_assoc] at line_eq
  rcases List.append_eq_append_iff.mp line_eq with ⟨rest, inLine, -⟩ | ⟨beyond, exceeds, -⟩
  · refine ⟨_, occursOther.isFor.withRest rest, ?_⟩
    rw [inLine, List.append_assoc]
    rfl
  · by_cases within : beyond = []
    · refine ⟨_, occursOther.isFor.withRest [], ?_⟩
      rw [within, List.append_nil] at exceeds
      rw [← exceeds, List.append_nil]
      rfl
    · -- The other occurrence begins before this one and ends after the line.
      rw [← occurs.line_eq, List.append_assoc] at exceeds
      rcases List.append_eq_append_iff.mp exceeds with ⟨gap, before_eq, raw_eq⟩ | ⟨gap, rfl, -⟩
      · have begins : gap ≠ [] := by
          rintro rfl
          simp [before_eq] at early
        have ends : reading.rest ++ beyond ≠ [] := by simp [within]
        rw [List.append_assoc] at raw_eq
        exact absurd raw_eq (occursOther.isFor.not_encloses occurs.isFor begins ends)
      · rw [List.length_append] at early
        omega

/-- The first comment of a line is the first of every line that begins with it. -/
theorem locate_append (located : locate tool line = some (before, reading)) (more : Text) :
    locate tool (line ++ more) =
      some (before, { reading with rest := reading.rest ++ more }) := by
  obtain ⟨occurs, first⟩ := locate_sound located
  refine locate_eq_some_iff.mpr ⟨occurs.append more, ?_⟩
  intro earlier other occursOther
  by_contra early
  obtain ⟨kept, occursKept⟩ := occurs.of_append occursOther (Nat.lt_of_not_le early)
  exact early (first earlier kept occursKept)

end After

/-! ## Text in front of a comment -/

/-- A comment begins with `#`. -/
theorem read?_cons_of_ne {c : Char} (notSign : c ≠ '#') (tool text : Text) :
    read? tool (c :: text) = none := by
  simp [read?, readChar, notSign]

/-- Text without `#` is passed over. -/
theorem locate_append_of_not_mem {front : Text} (noSign : '#' ∉ front) (tool line : Text) :
    locate tool (front ++ line) =
      (locate tool line).map fun (before, reading) => (front ++ before, reading) := by
  induction front with
  | nil => simp
  | cons c front ih =>
      have notSign : c ≠ '#' := (List.ne_of_not_mem_cons noSign).symm
      rw [List.cons_append, locate, read?_cons_of_ne notSign,
        ih (List.not_mem_of_not_mem_cons noSign), Option.map_map]
      rfl

/-! ## The comment that is found -/

/-- The comment after so many more bytes.  Its text is the same, and its bytes move
together. -/
def shift (bytes : Nat) (comment : Comment) : Comment :=
  { comment with start := bytes + comment.start }

@[simp]
theorem stop_shift (bytes : Nat) (comment : Comment) :
    (shift bytes comment).stop = bytes + comment.stop :=
  Nat.add_assoc ..

/-- A comment that is found is found in every line that begins with the same text, and
text without `#` in front of a line moves what is found by its bytes, and nothing else. -/
theorem recognition_ignores_surroundings (tool line : Text) :
    (∀ comment, find tool line = some comment →
      ∀ more, find tool (line ++ more) = some comment) ∧
      ∀ front, '#' ∉ front →
        find tool (front ++ line) = (find tool line).map (shift (Text.byteLength front)) := by
  constructor
  · intro comment found more
    obtain ⟨⟨before, reading⟩, located, rfl⟩ := Option.map_eq_some_iff.mp found
    rw [find, locate_append located]
    rfl
  · intro front noSign
    rw [find, find, locate_append_of_not_mem noSign, Option.map_map, Option.map_map]
    congr 1
    funext pair
    simp [ofReading, shift]

/-- A tool that is spelled with the sign, between a front of three bytes and another
comment. -/
theorem recognition_of_sign_between_texts :
    let line : Text := "###: ignore[reportA]"
    let comment : Comment := ⟨"#", "reportA", "##: ignore[reportA]", 1⟩
    find "#" line = some comment ∧
      find "#" (line ++ "##: ignore[reportB]".toList) = some comment ∧
      '#' ∉ ("é ".toList) ∧
      find "#" ("é ".toList ++ line) = some (shift 3 comment) ∧
      (shift 3 comment).start = 4 ∧ (shift 3 comment).stop = 23 := by
  intro line comment
  have found : find "#" line = some comment := by decide +kernel
  have noSign : '#' ∉ "é ".toList := by decide
  obtain ⟨continued, moved⟩ := recognition_ignores_surroundings "#" line
  refine ⟨found, continued comment found _, noSign, ?_, rfl, ?_⟩
  · rw [moved "é ".toList noSign, found]
    rfl
  · rw [stop_shift]
    decide

end GoldenCheck.Comment
