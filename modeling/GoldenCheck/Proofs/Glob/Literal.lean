import GoldenCheck.Glob.Walk
import GoldenCheck.Proofs.Disk.Listing

/-!
# Patterns without wildcards

A pattern without wildcards is read as itself: its tokens are its characters and its
components are the parts of the path that it spells, less an empty one at the end.
-/

namespace GoldenCheck.Glob

open Disk

/-! ## Reading -/

/-- The characters with a meaning of their own in patterns. -/
def wildcards : List Char := ['?', '*', '[']

theorem readTokens_of_literal {text : Text} (literal : ∀ c ∈ text, c ∉ wildcards)
    (position : Nat) (previous : Option Char) :
    readTokens position previous text = .ok (text.map .char) := by
  induction text generalizing position previous with
  | nil => simp [readTokens]
  | cons c text ih =>
      obtain ⟨plain, literal⟩ := List.forall_mem_cons.mp literal
      simp only [wildcards, List.mem_cons, List.not_mem_nil, or_false, not_or] at plain
      obtain ⟨notOne, notMany, notClass⟩ := plain
      rw [readTokens]
      · rw [ih literal]
        rfl
      · exact notOne
      · rintro rest rfl
        exact absurd rfl notMany
      · exact fun _ same => absurd same notMany
      · exact notMany
      · exact notClass

@[simp]
theorem literal?_map_char (text : Text) : literal? (text.map .char) = some text := by
  induction text with
  | nil => rfl
  | cons c text ih => rw [List.map_cons, literal?, ih, Option.map_some]

theorem mergeFolders_of_literal (parts : List Text) :
    mergeFolders (parts.map (List.map .char)) = parts.map (List.map .char) := by
  have notFolders (part : Text) : part.map Token.char ≠ [.anyFolders] := by
    cases part <;> simp
  induction parts with
  | nil => rfl
  | cons first parts ih =>
      cases parts with
      | nil => rfl
      | cons second parts =>
          rw [List.map_cons] at ih ⊢
          rw [List.map_cons, mergeFolders, if_neg fun both => notFolders first both.1, ih]

/-- The components of a text without wildcards are read as they stand. -/
theorem mapM_readPattern_of_literal {parts : List Text}
    (literal : ∀ part ∈ parts, ∀ c ∈ part, c ∉ wildcards) :
    parts.mapM readPattern = .ok (parts.map (List.map .char)) := by
  induction parts with
  | nil => rfl
  | cons part parts ih =>
      obtain ⟨literalPart, literal⟩ := List.forall_mem_cons.mp literal
      rw [List.mapM_cons, readPattern, readTokens_of_literal literalPart, ih literal]
      rfl

/-! ## Components -/

/-- A text and its bytes are cut at slashes into the same parts. -/
theorem pieces_encode (text : Text) :
    Text.pieces Path.slash (Text.encode text) = (Text.pieces '/' text).map Text.encode := by
  induction text with
  | nil => rfl
  | cons c text ih =>
      obtain ⟨piece, later, shape⟩ := List.exists_cons_of_ne_nil (Text.pieces_ne_nil '/' text)
      rw [Text.encode_cons, Text.pieces]
      by_cases slash : c = '/'
      · have written : String.utf8EncodeChar c = [Path.slash] := by
          rw [slash]
          decide
        rw [if_pos slash, written, List.map_cons, ← ih]
        exact Text.pieces_append_cons Path.slash [] _
      · have absent : Path.slash ∉ String.utf8EncodeChar c := by
          intro member
          have code := (Text.spells_utf8EncodeChar c).code_eq_of_mem (by decide) member
          exact slash (Char.toNat_inj.mp code)
        rw [shape, List.map_cons] at ih
        rw [if_neg slash, shape, Text.pieces_append_of_not_mem absent ih]
        rfl

/-- All parts but an empty one at the end are components. -/
theorem splitComponents_cases (text : Text) :
    Text.pieces '/' text = splitComponents text ++ [[]] ∨
      Text.pieces '/' text = splitComponents text ∧ (splitComponents text).getLast? ≠ some [] := by
  rw [splitComponents]
  split
  · rename_i rest shape
    left
    rw [← List.reverse_reverse (Text.pieces '/' text), shape, List.reverse_cons]
  · rename_i notEnded
    right
    rw [List.reverse_reverse]
    refine ⟨rfl, ?_⟩
    intro ended
    obtain ⟨front, shape⟩ := List.getLast?_eq_some_iff.mp ended
    exact notEnded front.reverse (by simp [shape])

theorem mem_pieces_of_mem_splitComponents {text part : Text}
    (member : part ∈ splitComponents text) : part ∈ Text.pieces '/' text := by
  rcases splitComponents_cases text with ended | ⟨same, -⟩
  · rw [ended]
    exact List.mem_append_left _ member
  · rwa [same]

/-- The bytes of a component are none that a path could not have. -/
theorem proper_of_mem_splitComponents {text part : Text} (noZero : 0 ∉ Text.encode text)
    (member : part ∈ splitComponents text) :
    Path.slash ∉ Text.encode part ∧ 0 ∉ Text.encode part := by
  have cut : Text.encode part ∈ Text.pieces Path.slash (Text.encode text) := by
    rw [pieces_encode]
    exact List.mem_map_of_mem (mem_pieces_of_mem_splitComponents member)
  constructor
  · intro slash
    exact (Text.mem_of_mem_pieces cut slash).2 rfl
  · intro zero
    exact noZero (Text.mem_of_mem_pieces cut zero).1

/-- The components of a path lead where the path leads. -/
theorem walk_splitComponents {disk : Disk} {start target : Location} {text : Text}
    (walked : disk.walk start (Text.pieces Path.slash (Text.encode text)) = .ok target) :
    disk.walk start ((splitComponents text).map Text.encode) = .ok target := by
  rw [pieces_encode] at walked
  rcases splitComponents_cases text with ended | ⟨same, -⟩
  · rw [ended, List.map_append, walk_append, bind_eq_ok_iff] at walked
    obtain ⟨middle, walked, last⟩ := walked
    obtain ⟨_, -, last⟩ := bind_eq_ok_iff.mp last
    obtain rfl := Except.ok.inj last
    exact walked
  · rwa [same] at walked

/-- No slash ends a path whose last part is not empty. -/
theorem lead_ofText {text : Text} (same : Text.pieces '/' text = splitComponents text)
    (openEnded : (splitComponents text).getLast? ≠ some []) :
    (Path.ofText text).lead = (Text.encode text).length + 1 := by
  refine if_neg ?_
  rw [Bool.or_eq_true, beq_iff_eq]
  rintro (empty | slashed)
  · rw [Text.encode_eq_nil_iff.mp (List.isEmpty_iff.mp empty)] at same openEnded
    exact openEnded (same ▸ rfl)
  · obtain ⟨front, shape⟩ := List.getLast?_eq_some_iff.mp slashed
    have cut := pieces_encode text
    rw [show Text.encode text = front ++ [Path.slash] from shape, Text.pieces_append_cons,
      same] at cut
    have last : ((splitComponents text).map Text.encode).getLast? = some [] := by
      rw [← cut]
      exact List.getLast?_concat
    rw [List.getLast?_map, Option.map_eq_some_iff] at last
    obtain ⟨part, found, empty⟩ := last
    rw [Text.encode_eq_nil_iff.mp empty] at found
    exact openEnded found

/-- The bytes of components, with a slash after each. -/
def slashed (parts : List Text) : Bytes :=
  parts.flatMap fun part => Text.encode part ++ [Path.slash]

theorem length_slashed_cons (part : Text) (parts : List Text) :
    (slashed (part :: parts)).length =
      (Text.encode part).length + 1 + (slashed parts).length := by
  rw [slashed, List.flatMap_cons, List.length_append, List.length_append]
  rfl

/-- The components of a path, with a slash after each, take no more room than the path
in front of a name. -/
theorem length_slashed_le (text : Text) :
    (slashed (splitComponents text)).length ≤ (Path.ofText text).lead := by
  have whole : slashed (Text.pieces '/' text) = Text.encode text ++ [Path.slash] := by
    rw [← Text.flatMap_pieces, pieces_encode, List.flatMap_map]
    rfl
  rcases splitComponents_cases text with ended | ⟨same, openEnded⟩
  · rw [ended, slashed, List.flatMap_append] at whole
    have shorter : slashed (splitComponents text) = Text.encode text :=
      List.append_inj_left' whole rfl
    rw [shorter]
    exact Path.length_le_lead (Path.ofText text)
  · rw [← same, whole, lead_ofText same openEnded, List.length_append]
    exact le_rfl

/-- A text that does not begin with a slash has a first part with its first
character. -/
theorem pieces_relative {c : Char} (relative : c ≠ '/') (text : Text) :
    ∃ part later, Text.pieces '/' (c :: text) = (c :: part) :: later := by
  obtain ⟨part, later, shape⟩ := List.exists_cons_of_ne_nil (Text.pieces_ne_nil '/' text)
  rw [Text.pieces, if_neg relative, shape]
  exact ⟨part, later, rfl⟩

theorem splitComponents_relative {c : Char} (relative : c ≠ '/') (text : Text) :
    ∃ part later, splitComponents (c :: text) = (c :: part) :: later := by
  obtain ⟨part, later, shape⟩ := pieces_relative relative text
  rcases splitComponents_cases (c :: text) with ended | ⟨same, -⟩
  · rw [shape] at ended
    cases components : splitComponents (c :: text) with
    | nil => simp [components] at ended
    | cons first others =>
        rw [components, List.cons_append, List.cons.injEq] at ended
        exact ⟨part, others, by rw [← ended.1]⟩
  · exact ⟨part, later, by rw [← same, shape]⟩

theorem not_isAbsolute_relative {c : Char} (relative : c ≠ '/') (text : Text) :
    ¬(Path.ofText (c :: text)).isAbsolute = true := by
  intro absolute
  obtain ⟨rest, bytes⟩ := List.head?_eq_some_iff.mp (beq_iff_eq.mp absolute)
  obtain ⟨part, later, shape⟩ := pieces_relative relative text
  have cut := pieces_encode (c :: text)
  rw [show Text.encode (c :: text) = Path.slash :: rest from bytes, Text.pieces, if_pos rfl, shape,
    List.map_cons, List.cons.injEq] at cut
  exact absurd (Text.encode_eq_nil_iff.mp cut.1.symm) (by simp)

/-! ## Plans -/

/-- Where an expansion begins, and what is left to be expanded. -/
def opening : Text → Text × Text
  | '/' :: rest => ("/", rest)
  | text => (".", text)

/-- The components of what is left to be expanded. -/
def parts (body : Text) : List Text :=
  if body.isEmpty then [[]] else splitComponents body

theorem mem_opening {text : Text} {c : Char} (inside : c ∈ (opening text).2) : c ∈ text := by
  rw [opening.eq_def] at inside
  split at inside
  · exact List.mem_cons_of_mem _ inside
  · exact inside

/-- A well-formed pattern is read component by component. -/
theorem parse_of_readPattern {text : Text} {tokens : List Token}
    (read : readPattern text = .ok tokens) :
    Plan.parse text = (splitComponents (opening text).2).mapM readPattern >>= fun components =>
      .ok ⟨Path.ofText (opening text).1,
        mergeFolders (if (opening text).2.isEmpty then [[]] else components),
        text.getLast? == some '/'⟩ := by
  rw [Plan.parse.eq_def, read]
  split
  rename_i start body cut
  have opened : opening text = (start, body) := by
    split at cut
    · exact cut
    · rename_i relative
      rw [opening]
      · exact cut
      · exact relative
  rw [opened]
  rfl

theorem parse_of_literal {text : Text} (literal : ∀ c ∈ text, c ∉ wildcards) :
    Plan.parse text =
      .ok ⟨Path.ofText (opening text).1, (parts (opening text).2).map (List.map .char),
        text.getLast? == some '/'⟩ := by
  have literalBody : ∀ part ∈ splitComponents (opening text).2, ∀ c ∈ part, c ∉ wildcards := by
    intro part member c inside
    have cut := mem_pieces_of_mem_splitComponents member
    exact literal c (mem_opening (Text.mem_of_mem_pieces cut inside).1)
  have merged : mergeFolders (if (opening text).2.isEmpty then [[]]
      else (splitComponents (opening text).2).map (List.map .char)) =
        (parts (opening text).2).map (List.map .char) := by
    rw [parts]
    split
    · rfl
    · exact mergeFolders_of_literal _
  rw [parse_of_readPattern (readTokens_of_literal literal 0 none),
    mapM_readPattern_of_literal literalBody, ← merged]
  rfl

end GoldenCheck.Glob
