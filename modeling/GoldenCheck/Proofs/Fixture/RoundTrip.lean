import GoldenCheck.Fixture.Basic
import GoldenCheck.Proofs.Comment.Find

/-!
# Reading a fixture loses nothing

Each of the three layers of reading is undone by rendering: the cut into lines,
the header taken off the front, and the division of a line at its comment.
Together they give back the text, and each line of the fixture is the line of the
text that has its number.
-/

namespace GoldenCheck.Fixture

/-! ## Lines and their endings -/

/-- A line of a text with the characters that end it. -/
def lineText (line : Text × Ending) : Text :=
  line.1 ++ line.2.text

theorem lineText_splitSegment (segment : Text) : lineText (splitSegment segment) = segment := by
  rw [splitSegment]
  split
  · rename_i body dropped
    exact List.isSuffixOf?_eq_some_iff_append_eq.mp dropped
  · split
    · rename_i body dropped
      exact List.isSuffixOf?_eq_some_iff_append_eq.mp dropped
    · exact List.append_nil segment

/-- A line of a text taken apart: the ending is all that there is of newlines, and
takes in the carriage return in front of one. -/
structure Divides (segment body : Text) (ending : Ending) : Prop where
  joined : body ++ ending.text = segment
  inside : '\n' ∉ body
  whole : ending = .lf → body.getLast? ≠ some '\r'

theorem divides_splitSegment {segment : Text} (single : '\n' ∉ segment.dropLast) :
    Divides segment (splitSegment segment).1 (splitSegment segment).2 := by
  rw [splitSegment]
  split
  · rename_i body dropped
    obtain rfl := List.isSuffixOf?_eq_some_iff_append_eq.mp dropped
    rw [List.dropLast_append_of_ne_nil (by simp)] at single
    exact ⟨rfl, fun newline => single (List.mem_append_left _ newline), nofun⟩
  · rename_i notCrlf
    split
    · rename_i body dropped
      obtain rfl := List.isSuffixOf?_eq_some_iff_append_eq.mp dropped
      rw [List.dropLast_concat] at single
      refine ⟨rfl, single, ?_⟩
      -- A carriage return left at the end of the body would have gone with the newline.
      intro _ carriage
      obtain ⟨front, rfl⟩ := List.getLast?_eq_some_iff.mp carriage
      exact Text.isSuffixOf?_eq_none_iff.mp notCrlf ⟨front, by simp⟩
    · rename_i notLf
      refine ⟨List.append_nil segment, ?_, nofun⟩
      intro newline
      have nonempty := List.ne_nil_of_mem newline
      have joined := List.dropLast_append_getLast nonempty
      rw [← joined, List.mem_append, List.mem_singleton] at newline
      rcases newline with newline | newline
      · exact single newline
      · rw [← newline] at joined
        exact Text.isSuffixOf?_eq_none_iff.mp notLf ⟨_, joined⟩

/-- A part without newlines has no ending. -/
theorem splitSegment_of_not_mem {body : Text} (inside : '\n' ∉ body) :
    splitSegment body = (body, .none) := by
  have joined := lineText_splitSegment body
  revert joined
  rcases splitSegment body with ⟨front, ending⟩
  intro joined
  cases ending with
  | lf => exact absurd (by simp [← joined, lineText, Ending.text]) inside
  | crlf => exact absurd (by simp [← joined, lineText, Ending.text]) inside
  | none => simpa [lineText, Ending.text] using joined

/-- A part that runs up to a newline has one. -/
theorem divides_splitSegment_newline {body : Text} (inside : '\n' ∉ body) :
    Divides (body ++ ['\n']) (splitSegment (body ++ ['\n'])).1
        (splitSegment (body ++ ['\n'])).2 ∧
      (splitSegment (body ++ ['\n'])).2 ≠ .none := by
  have single : '\n' ∉ (body ++ ['\n']).dropLast := by rwa [List.dropLast_concat]
  have divides := divides_splitSegment single
  refine ⟨divides, ?_⟩
  intro unended
  apply divides.inside
  have joined := divides.joined
  rw [unended, Ending.text, List.append_nil] at joined
  simp [joined]

/-- A line is divided in one way only. -/
theorem Divides.splitSegment_eq {segment body : Text} {ending : Ending}
    (divides : Divides segment body ending) : splitSegment segment = (body, ending) := by
  obtain ⟨rfl, inside, whole⟩ := divides
  cases ending with
  | lf =>
      have notCrlf : ['\r', '\n'].isSuffixOf? (body ++ Ending.lf.text) = none := by
        apply Text.isSuffixOf?_eq_none_iff.mpr
        rintro ⟨front, same⟩
        apply whole rfl
        have carriage : front ++ ['\r'] ++ ['\n'] = body ++ ['\n'] := by
          simpa [Ending.text] using same
        rw [← List.append_cancel_right carriage]
        exact List.getLast?_concat
      have lf : ['\n'].isSuffixOf? (body ++ Ending.lf.text) = some body :=
        List.isSuffixOf?_eq_some_iff_append_eq.mpr rfl
      rw [splitSegment, notCrlf, lf]
  | crlf =>
      have crlf : ['\r', '\n'].isSuffixOf? (body ++ Ending.crlf.text) = some body :=
        List.isSuffixOf?_eq_some_iff_append_eq.mpr rfl
      rw [splitSegment, crlf]
  | none =>
      rw [Ending.text, List.append_nil]
      exact splitSegment_of_not_mem inside

/-- A text without newlines is one line without an ending. -/
theorem splitLines_of_not_mem {body : Text} (nonempty : body ≠ []) (inside : '\n' ∉ body) :
    splitLines body = [(body, .none)] := by
  rw [splitLines, Text.segments_of_not_mem nonempty inside, List.map_singleton,
    splitSegment_of_not_mem inside]

/-- A line with an ending is the first of the text that begins with it. -/
theorem splitLines_append {segment body : Text} {ending : Ending}
    (divides : Divides segment body ending) (ended : ending ≠ .none) (rest : Text) :
    splitLines (segment ++ rest) = (body, ending) :: splitLines rest := by
  have first : Text.segments (segment ++ rest) = segment :: Text.segments rest := by
    obtain ⟨rfl, inside, -⟩ := divides
    cases ending with
    | lf => simpa [Ending.text] using Text.segments_append_newline inside rest
    | crlf =>
        have inside : '\n' ∉ body ++ ['\r'] := by simpa using inside
        simpa [Ending.text] using Text.segments_append_newline inside rest
    | none => contradiction
  rw [splitLines, first, List.map_cons, divides.splitSegment_eq]
  rfl

/-- The lines with their endings make up the text. -/
theorem flatten_splitLines (text : Text) :
    ((splitLines text).map lineText).flatten = text := by
  have undone : lineText ∘ splitSegment = id := funext lineText_splitSegment
  rw [splitLines, List.map_map, undone, List.map_id, Text.flatten_segments]

/-- Each line of a text is one of its segments taken apart. -/
theorem getElem?_splitLines_eq_some {text body : Text} {ending : Ending} {index : Nat}
    (found : (splitLines text)[index]? = some (body, ending)) :
    ∃ segment, (Text.segments text)[index]? = some segment ∧ Divides segment body ending := by
  rw [splitLines, List.getElem?_map] at found
  obtain ⟨segment, placed, split⟩ := Option.map_eq_some_iff.mp found
  have member := List.mem_of_getElem? placed
  have divides := divides_splitSegment ((Text.segmented_segments text).not_mem_dropLast member)
  rw [split] at divides
  exact ⟨segment, placed, divides⟩

/-! ## The header -/

/-- A header keeps the line that it was read from. -/
theorem Header.detect_eq_some {body : Text} {ending : Ending} {header : Header}
    (detected : detect body ending = some header) :
    header.body = body ∧ header.ending = ending := by
  unfold detect at detected
  split at detected
  · dsimp only at detected
    split at detected
    · contradiction
    · obtain rfl := Option.some.inj detected
      exact ⟨rfl, rfl⟩
  · contradiction

theorem Header.render_of_detect {body : Text} {ending : Ending} {header : Header}
    (detected : detect body ending = some header) : header.render = lineText (body, ending) := by
  obtain ⟨rfl, rfl⟩ := detect_eq_some detected
  rfl

/-- A header is looked for in the first line. -/
theorem splitHeader_fst (lines : List (Text × Ending)) :
    (splitHeader lines).1 = lines[0]?.bind fun line => Header.detect line.1 line.2 := by
  cases lines with
  | nil => rfl
  | cons line lines =>
      rw [splitHeader]
      cases detected : Header.detect line.1 line.2 <;> exact detected.symm

/-- A header takes one line away, and its absence none. -/
theorem splitHeader_snd (lines : List (Text × Ending)) :
    (splitHeader lines).2 = lines.drop (if (splitHeader lines).1.isSome then 1 else 0) := by
  cases lines with
  | nil => rfl
  | cons line lines =>
      rw [splitHeader]
      cases Header.detect line.1 line.2 <;> rfl

theorem render_splitHeader (lines : List (Text × Ending)) :
    ((splitHeader lines).1.elim [] Header.render) ++ ((splitHeader lines).2.map lineText).flatten =
      (lines.map lineText).flatten := by
  cases lines with
  | nil => rfl
  | cons line lines =>
      rw [splitHeader]
      cases detected : Header.detect line.1 line.2 with
      | none => rfl
      | some header =>
          rw [List.map_cons, List.flatten_cons, ← Header.render_of_detect detected]
          rfl

/-! ## One line -/

namespace Line

/-- The body of a line is its statement, the gap, the comment and what follows. -/
theorem body_eq (line : Line) :
    line.body = line.statement ++ line.gap ++ line.rawComment ++ line.trailing := by
  rw [statement, gap, Text.trimEnd_append_blankEnd]
  simp [body]

@[simp]
theorem ending_parse (tool body : Text) (ending : Ending) :
    (parse tool body ending).ending = ending := by
  rw [parse]
  split <;> rfl

/-- Dividing a line at its comment keeps every character. -/
@[simp]
theorem body_parse (tool body : Text) (ending : Ending) :
    (parse tool body ending).body = body := by
  rw [parse]
  split
  · rename_i before reading located
    obtain ⟨occurs, -⟩ := Comment.locate_sound located
    simpa [Line.body, rawComment, Comment.ofReading] using occurs.line_eq
  · simp [Line.body, rawComment]

theorem render_parse (tool body : Text) (ending : Ending) :
    (parse tool body ending).render = lineText (body, ending) := by
  rw [render, body_parse, ending_parse, lineText]

end Line

/-! ## Numbered lines -/

theorem one_le_firstNumber (fixture : Fixture) : 1 ≤ fixture.firstNumber := by
  rw [firstNumber]
  split <;> omega

/-- Lines are numbered from the first, unless that is a header. -/
theorem firstNumber_le_iff {fixture : Fixture} {index : Nat} :
    fixture.firstNumber ≤ index + 1 ↔ ¬(index = 0 ∧ fixture.header.isSome = true) := by
  rw [firstNumber]
  split
  · rename_i headed
    simp only [headed, and_true]
    omega
  · rename_i headless
    simp [headless]

theorem mem_numberedLines_iff {fixture : Fixture} {number : Nat} {line : Line} :
    (number, line) ∈ fixture.numberedLines ↔
      fixture.firstNumber ≤ number ∧ fixture.lines[number - fixture.firstNumber]? = some line := by
  rw [← List.mk_mem_zipIdx_iff_le_and_getElem?_sub]
  simp [numberedLines]

/-- Every line after the header has a number. -/
theorem mem_lines_iff {fixture : Fixture} {line : Line} :
    line ∈ fixture.lines ↔ ∃ number, (number, line) ∈ fixture.numberedLines := by
  simp only [mem_numberedLines_iff]
  constructor
  · intro member
    obtain ⟨index, found⟩ := List.mem_iff_getElem?.mp member
    exact ⟨fixture.firstNumber + index, by omega, by rwa [Nat.add_sub_cancel_left]⟩
  · rintro ⟨number, _, found⟩
    exact List.mem_iff_getElem?.mpr ⟨_, found⟩

theorem mem_comments_iff {fixture : Fixture} {number : Nat} {line : Line} {comment : Comment} :
    (number, line, comment) ∈ fixture.comments ↔
      (number, line) ∈ fixture.numberedLines ∧ line.comment = some comment := by
  rw [comments, List.mem_filterMap]
  constructor
  · rintro ⟨⟨place, found⟩, member, kept⟩
    obtain ⟨_, carried, rebuilt⟩ := Option.map_eq_some_iff.mp kept
    obtain ⟨rfl, rfl, rfl⟩ : place = number ∧ found = line ∧ _ = comment := by
      simpa using rebuilt
    exact ⟨member, carried⟩
  · rintro ⟨member, carried⟩
    exact ⟨(number, line), member, by simp [carried]⟩

/-! ## The whole fixture -/

@[simp]
theorem path_parse (path : Path) (tool text : Text) : (parse path tool text).path = path :=
  rfl

theorem header_parse (path : Path) (tool text : Text) :
    (parse path tool text).header = (splitHeader (splitLines text)).1 :=
  rfl

/-- The lines of a fixture are those of the text, from its first number on. -/
theorem lines_parse (path : Path) (tool text : Text) :
    (parse path tool text).lines =
      ((splitLines text).drop ((parse path tool text).firstNumber - 1)).map
        fun line => Line.parse tool line.1 line.2 := by
  have taken : (parse path tool text).firstNumber - 1 =
      if (splitHeader (splitLines text)).1.isSome then 1 else 0 := by
    rw [firstNumber, header_parse]
    split <;> rfl
  rw [taken, ← splitHeader_snd]
  rfl

/-- A numbered line of a fixture is read from the line of the text with that
number. -/
theorem mem_numberedLines_parse_iff {path : Path} {tool text : Text} {number : Nat} {line : Line} :
    (number, line) ∈ (parse path tool text).numberedLines ↔
      (parse path tool text).firstNumber ≤ number ∧
        ∃ body ending, (splitLines text)[number - 1]? = some (body, ending) ∧
          Line.parse tool body ending = line := by
  have first_pos := one_le_firstNumber (parse path tool text)
  rw [mem_numberedLines_iff, lines_parse, List.getElem?_map, List.getElem?_drop]
  apply and_congr_right
  intro le
  have place : (parse path tool text).firstNumber - 1 +
      (number - (parse path tool text).firstNumber) = number - 1 := by
    omega
  simp [place, Option.map_eq_some_iff]

/-- Rendering gives back the text. -/
theorem render_parse (path : Path) (tool text : Text) : (parse path tool text).render = text := by
  have header : (parse path tool text).renderHeader =
      (splitHeader (splitLines text)).1.elim [] Header.render := by
    rw [renderHeader, header_parse]
    cases (splitHeader (splitLines text)).1 <;> rfl
  have lines : (parse path tool text).lines.map Line.render =
      (splitHeader (splitLines text)).2.map lineText := by
    rw [parse, List.map_map]
    exact List.map_congr_left fun line _ => Line.render_parse tool line.1 line.2
  rw [render, header, lines, render_splitHeader, flatten_splitLines]

/-- Reading a fixture loses nothing: rendering it gives back the text, and every
line of it divides the body of the line of the text with its number into the
statement, a gap of white space only, the comment and what follows. -/
theorem parse_loses_nothing (path : Path) (tool text : Text) :
    (parse path tool text).render = text ∧
      ∃ segments, Text.Segmented text segments ∧
        ∀ number line, (number, line) ∈ (parse path tool text).numberedLines →
          ∃ index segment body, number = index + 1 ∧
            segments[index]? = some segment ∧
            Divides segment body line.ending ∧
            line.statement ++ line.gap ++ line.rawComment ++ line.trailing = body ∧
            (∀ c ∈ line.gap, Text.isBlank c = true) ∧
            ∀ c, line.statement.getLast? = some c → Text.isBlank c = false := by
  refine ⟨render_parse path tool text, _, Text.segmented_segments text, ?_⟩
  intro number line member
  obtain ⟨from_first, body, ending, found, rfl⟩ := mem_numberedLines_parse_iff.mp member
  have first_pos := one_le_firstNumber (parse path tool text)
  obtain ⟨segment, placed, divides⟩ := getElem?_splitLines_eq_some found
  refine ⟨number - 1, segment, body, by omega, placed, ?_, ?_, ?_, ?_⟩
  · rwa [Line.ending_parse]
  · rw [← Line.body_eq, Line.body_parse]
  · intro c member
    exact Text.isBlank_of_mem_blankEnd member
  · intro c last
    exact Text.isBlank_getLast?_trimEnd last

end GoldenCheck.Fixture
