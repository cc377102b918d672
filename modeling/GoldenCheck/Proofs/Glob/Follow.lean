import GoldenCheck.Proofs.Glob.Literal

/-!
# Following a pattern without wildcards

A pattern without wildcards is expanded by following its components one after the
other, so it stands for the path that it spells.  There is one exception.  The path of
the current folder is left out in front of what comes next, so if that is empty,
nothing is left to follow.
-/

namespace GoldenCheck.Glob

open Disk

/-! ## Steps -/

/-- The path of the current folder. -/
def here : Path := Path.ofText "."

/-- Whether an empty component follows on `.` at the front, however often it is
repeated. -/
def emptyAfterHere : List Text → Bool
  | ['.'] :: [] :: _ => true
  | ['.'] :: rest => emptyAfterHere rest
  | _ => false

theorem emptyAfterHere_tail {parts : List Text} (clear : emptyAfterHere (['.'] :: parts) = false) :
    parts.head? ≠ some [] ∧ emptyAfterHere parts = false := by
  cases parts with
  | nil => exact ⟨by simp, rfl⟩
  | cons part parts =>
      cases part with
      | nil => simp [emptyAfterHere] at clear
      | cons c part => exact ⟨by simp, by simpa [emptyAfterHere] using clear⟩

theorem splitStart_of_same_here {path : Path} (same : path.same here = true) :
    path.splitStart.1 = [Path.dot] := by
  have components : path.components = [.here] := beq_iff_eq.mp same
  have member : .here ∈ path.components := by simp [components]
  rw [Path.components_eq, List.mem_append] at member
  rcases member with atStart | inParts
  · rw [Path.startComponents] at atStart
    split at atStart
    · simp at atStart
    · split at atStart
      · assumption
      · contradiction
  · obtain ⟨part, -, stands⟩ := List.mem_filterMap.mp inParts
    rw [Path.partComponent?] at stands
    split at stands
    · contradiction
    · split at stands <;> simp at stands

/-- The number of bytes that stand in front of the next component. -/
def offset (path : Path) : Nat :=
  if path = here then 0 else path.lead

theorem offset_le (path : Path) : offset path ≤ path.bytes.length + 1 := by
  rw [offset]
  split
  · omega
  · exact path.lead_le

/-- An expansion has come to a folder.  The path is that of the current folder, or it
does not begin there. -/
structure Arrived (disk : Disk) (path : Path) (location : Location) : Prop where
  resolved : disk.resolve path = .ok (location, .folder)
  settled : path = here ∨ path.splitStart.1 ≠ [Path.dot]

theorem stepDown_here (step : Path) : stepDown here step = step :=
  if_pos rfl

section Step

variable {disk : Disk} {path : Path} {location next : Location} {part : Bytes}

theorem Arrived.stepDown_eq (arrived : Arrived disk path location) (elsewhere : path ≠ here)
    (step : Path) : stepDown path step = path.join step := by
  have named := arrived.settled.resolve_left elsewhere
  exact if_neg fun same => named (splitStart_of_same_here same)

theorem Arrived.length_stepDown (arrived : Arrived disk path location)
    (closed : Path.slash ∉ part) :
    (stepDown path ⟨part⟩).bytes.length = offset path + part.length := by
  by_cases atHere : path = here
  · rw [atHere, stepDown_here, offset, if_pos rfl, Nat.zero_add]
  · rw [arrived.stepDown_eq atHere, offset, if_neg atHere, Path.length_join path closed]

/-- The path of the current folder leads there. -/
theorem Arrived.location_eq (arrived : Arrived disk here location) : location = disk.current := by
  obtain ⟨-, walked, -⟩ := resolve_eq_ok_iff.mp arrived.resolved
  obtain ⟨_, -, walked⟩ := bind_eq_ok_iff.mp walked
  exact (Except.ok.inj walked).symm

/-- A component that is followed leads where a walk along it leads. -/
theorem Arrived.stepDown (arrived : Arrived disk path location) (closed : Path.slash ∉ part)
    (noZero : 0 ∉ part) (filled : path = here → part ≠ [])
    (short : offset path + part.length ≤ longestPath)
    (walked : disk.walk location [part] = .ok next) (folder : disk.entry? next = some .folder) :
    Arrived disk (Glob.stepDown path ⟨part⟩) next := by
  rw [← arrived.length_stepDown closed] at short
  by_cases atHere : path = here
  · subst atHere
    rw [arrived.location_eq] at walked
    rw [stepDown_here] at short ⊢
    have relative : disk.startOf ⟨part⟩ = disk.current := by
      refine if_neg fun absolute => closed ?_
      exact List.mem_of_head? (beq_iff_eq.mp absolute)
    refine ⟨resolve_eq_ok_iff.mpr ⟨?_, ?_, folder⟩, ?_⟩
    · exact requireUsable_eq_ok_iff.mpr ⟨noZero, filled rfl, short⟩
    · rwa [relative, Text.pieces_of_not_mem closed]
    · by_cases again : part = [Path.dot]
      · exact .inl (congrArg Path.mk again)
      · right
        rw [Path.splitStart_of_closed closed again]
        simp
  · obtain ⟨usable, -, -⟩ := resolve_eq_ok_iff.mp arrived.resolved
    obtain ⟨-, written, -⟩ := requireUsable_eq_ok_iff.mp usable
    rw [arrived.stepDown_eq atHere] at short ⊢
    refine ⟨resolve_eq_ok_iff.mpr ⟨?_, ?_, folder⟩, .inr ?_⟩
    · exact (requireUsable_join_part_iff usable closed noZero).mpr short
    · rwa [walk_join_part arrived.resolved closed]
    · rw [Path.splitStart_join closed written]
      exact arrived.settled.resolve_left atHere

/-- An expansion that has left the current folder does not come back to its path. -/
theorem Arrived.stepDown_ne_here (arrived : Arrived disk path location) (elsewhere : path ≠ here)
    (closed : Path.slash ∉ part) : Glob.stepDown path ⟨part⟩ ≠ here := by
  obtain ⟨usable, -, -⟩ := resolve_eq_ok_iff.mp arrived.resolved
  obtain ⟨-, written, -⟩ := requireUsable_eq_ok_iff.mp usable
  have start := Path.splitStart_join closed written
  rw [arrived.stepDown_eq elsewhere]
  intro same
  rw [same] at start
  exact arrived.settled.resolve_left elsewhere start.symm

end Step

/-- An expansion along components without wildcards takes one step after the other. -/
theorem expand_cons_of_literal {disk : Disk} {foldersOnly : Bool} {part : Text}
    {parts : List Text} {path : Path} {location next : Location}
    (arrived : Arrived disk path location)
    (further : Arrived disk (Glob.stepDown path (Path.ofText part)) next) :
    expand disk foldersOnly ((part :: parts).map (List.map .char)) (.ofPath disk path) =
      expand disk foldersOnly (parts.map (List.map .char))
        (.ofPath disk (Glob.stepDown path (Path.ofText part))) := by
  rw [List.map_cons, expand, literal?_map_char]
  refine if_pos ?_
  change (if _ then disk.isFolder path
    else disk.holds (Glob.stepDown path (Path.ofText part))) = true
  rw [isFolder_of_resolve arrived.resolved, holds_of_resolve further.resolved]
  split <;> rfl

/-- An expansion along components without wildcards follows them to one path.  It is
spelled in no more bytes than the components with a slash after each. -/
theorem expand_of_literal {disk : Disk} {foldersOnly : Bool} {parts : List Text} {path : Path}
    {location target : Location} {bound : Nat} (arrived : Arrived disk path location)
    (proper : ∀ part ∈ parts, Path.slash ∉ Text.encode part ∧ 0 ∉ Text.encode part)
    (filled : path = here → parts.head? ≠ some [] ∧ emptyAfterHere parts = false)
    (walked : disk.walk location (parts.map Text.encode) = .ok target)
    (folder : disk.entry? target = some .folder) (short : path.bytes.length < bound)
    (room : offset path + (slashed parts).length ≤ bound)
    (bounded : bound ≤ longestPath + 1) :
    ∃ last, expand disk foldersOnly (parts.map (List.map .char)) (.ofPath disk path) = .ok [last] ∧
      disk.resolve last = .ok (target, .folder) ∧ last.bytes.length < bound := by
  induction parts generalizing path location with
  | nil =>
      obtain rfl := Except.ok.inj walked
      refine ⟨path, ?_, arrived.resolved, short⟩
      rw [List.map_nil, expand, reached, Place.ofPath, isFolder_of_resolve arrived.resolved]
      simp
  | cons part parts ih =>
      obtain ⟨⟨closed, noZero⟩, proper⟩ := List.forall_mem_cons.mp proper
      rw [length_slashed_cons] at room
      rw [List.map_cons, ← List.singleton_append, walk_append] at walked
      obtain ⟨middle, first, walked⟩ := bind_eq_ok_iff.mp walked
      have filledPart : path = here → Text.encode part ≠ [] := by
        intro atHere empty
        exact (filled atHere).1 (by rw [Text.encode_eq_nil_iff.mp empty]; rfl)
      have further : Arrived disk (Glob.stepDown path (Path.ofText part)) middle :=
        arrived.stepDown closed noZero filledPart (by omega) first (entry?_of_walk walked folder)
      have length : (Glob.stepDown path (Path.ofText part)).bytes.length =
          offset path + (Text.encode part).length := arrived.length_stepDown closed
      have next := offset_le (Glob.stepDown path (Path.ofText part))
      rw [expand_cons_of_literal arrived further]
      apply ih further proper _ walked (by omega) (by omega)
      intro atHere
      -- Only `.` leads from the current folder to itself.
      by_cases before : path = here
      · rw [before, stepDown_here] at atHere
        obtain rfl : part = ['.'] := Text.encode_injective (congrArg Path.bytes atHere)
        exact emptyAfterHere_tail (filled before).2
      · exact absurd atHere (arrived.stepDown_ne_here before closed)

/-! ## Whole patterns -/

/-- A text that a pattern takes as it stands. -/
@[mk_iff]
structure IsPlain (text : Text) : Prop where
  literal : ∀ c ∈ text, c ∉ wildcards
  clear : emptyAfterHere (splitComponents text) = false

instance (text : Text) : Decidable (IsPlain text) :=
  decidable_of_iff
    (text.all (fun c => !wildcards.contains c) = true ∧
      emptyAfterHere (splitComponents text) = false)
    (by simp [isPlain_iff])

section Paths

variable {disk : Disk} {location : Location} {foldersOnly : Bool}

theorem arrived_root (disk : Disk) : Arrived disk (Path.ofText "/") [] :=
  ⟨rfl, .inr (by decide)⟩

/-- A text that begins with a slash is followed from the root. -/
theorem expand_absolute {body : Text}
    (resolved : disk.resolve (Path.ofText ('/' :: body)) = .ok (location, .folder)) :
    ∃ last, expand disk foldersOnly ((parts body).map (List.map .char))
        (.ofPath disk (Path.ofText "/")) = .ok [last] ∧
      disk.resolve last = .ok (location, .folder) ∧
      last.lead ≤ (Path.ofText ('/' :: body)).lead := by
  cases body with
  | nil =>
      have atRoot := resolved.symm.trans (arrived_root disk).resolved
      obtain ⟨rfl, -⟩ := Prod.mk.inj (Except.ok.inj atRoot)
      refine ⟨Path.ofText "/", ?_, resolved, le_rfl⟩
      cases foldersOnly <;> rfl
  | cons c body =>
      obtain ⟨usable, walked, folder⟩ := resolve_eq_ok_iff.mp resolved
      obtain ⟨noZero, -, short⟩ := requireUsable_eq_ok_iff.mp usable
      have bytes : (Path.ofText ('/' :: c :: body)).bytes =
          Path.slash :: Text.encode (c :: body) := rfl
      have filled : Text.encode (c :: body) ≠ [] := by
        rw [Ne, Text.encode_eq_nil_iff]
        simp
      have lead : (Path.ofText ('/' :: c :: body)).lead = (Path.ofText (c :: body)).lead + 1 :=
        Path.lead_cons Path.slash filled
      have fromRoot : disk.walk [] (Text.pieces Path.slash (Text.encode (c :: body))) =
          .ok location := by
        rw [bytes, Text.pieces, if_pos rfl] at walked
        exact (walk_idle rfl rfl).symm.trans walked
      rw [bytes, List.mem_cons, not_or] at noZero
      rw [bytes, List.length_cons] at short
      have room := length_slashed_le (c :: body)
      have begun : 0 < (Path.ofText (c :: body)).lead :=
        (List.length_pos_iff.mpr filled).trans_le (Path.length_le_lead _)
      have bounded : (Path.ofText ('/' :: c :: body)).lead ≤ longestPath + 1 :=
        (Path.lead_le _).trans (Nat.add_le_add_right short 1)
      obtain ⟨last, expanded, leads, shorter⟩ := @expand_of_literal _ foldersOnly _ _ _ _
        (Path.ofText ('/' :: c :: body)).lead (arrived_root disk)
        (fun _ => proper_of_mem_splitComponents noZero.2)
        (fun same => absurd same (by decide)) (walk_splitComponents fromRoot) folder
        (by rw [lead]; exact Nat.succ_lt_succ begun)
        (by rw [lead, Nat.add_comm]; exact Nat.add_le_add_right room 1) bounded
      exact ⟨last, expanded, leads, last.lead_le.trans shorter⟩

/-- A text that does not begin with a slash is followed from the current folder. -/
theorem expand_relative {c : Char} {text : Text} (relative : c ≠ '/')
    (clear : emptyAfterHere (splitComponents (c :: text)) = false)
    (resolved : disk.resolve (Path.ofText (c :: text)) = .ok (location, .folder)) :
    ∃ last, expand disk foldersOnly ((parts (c :: text)).map (List.map .char))
        (.ofPath disk here) = .ok [last] ∧
      disk.resolve last = .ok (location, .folder) ∧ last.lead ≤ (Path.ofText (c :: text)).lead := by
  obtain ⟨usable, walked, folder⟩ := resolve_eq_ok_iff.mp resolved
  obtain ⟨noZero, -, short⟩ := requireUsable_eq_ok_iff.mp usable
  obtain ⟨part, later, shape⟩ := splitComponents_relative relative text
  have start : disk.startOf (Path.ofText (c :: text)) = disk.current :=
    if_neg (not_isAbsolute_relative relative text)
  rw [start] at walked
  have arrived : Arrived disk here disk.current := by
    refine ⟨resolve_eq_ok_iff.mpr ⟨rfl, ?_, entry?_of_walk walked folder⟩, .inl rfl⟩
    exact walk_idle (entry?_of_walk walked folder) rfl
  have room := length_slashed_le (c :: text)
  have begun : 1 < (Path.ofText (c :: text)).lead := by
    have filled : 0 < (Text.encode (c :: part)).length := by
      rw [List.length_pos_iff, Ne, Text.encode_eq_nil_iff]
      simp
    rw [shape, length_slashed_cons] at room
    omega
  have bounded : (Path.ofText (c :: text)).lead ≤ longestPath + 1 :=
    (Path.lead_le _).trans (Nat.add_le_add_right short 1)
  have filled : (splitComponents (c :: text)).head? ≠ some [] := by
    rw [shape]
    simp
  obtain ⟨last, expanded, leads, shorter⟩ := @expand_of_literal _ foldersOnly _ _ _ _
    (Path.ofText (c :: text)).lead arrived (fun _ => proper_of_mem_splitComponents noZero)
    (fun _ => ⟨filled, clear⟩) (walk_splitComponents walked) folder begun
    (by rw [offset, if_pos rfl, Nat.zero_add]; exact room) bounded
  exact ⟨last, expanded, leads, last.lead_le.trans shorter⟩

/-- A plain text that leads to a folder stands for one path, which leads there too and
takes no more room. -/
theorem paths_of_plain {text : Text} (plain : IsPlain text)
    (resolved : disk.resolve (Path.ofText text) = .ok (location, .folder)) :
    ∃ plan last, Plan.parse text = .ok plan ∧ paths disk plan = .ok [last] ∧
      disk.resolve last = .ok (location, .folder) ∧ last.lead ≤ (Path.ofText text).lead := by
  have parsed := parse_of_literal plain.literal
  cases text with
  | nil =>
      obtain ⟨usable, -, -⟩ := resolve_eq_ok_iff.mp resolved
      obtain ⟨-, written, -⟩ := requireUsable_eq_ok_iff.mp usable
      exact absurd rfl written
  | cons c text =>
      by_cases absolute : c = '/'
      · subst absolute
        obtain ⟨last, expanded, leads, shorter⟩ := expand_absolute resolved
        exact ⟨_, last, parsed, expanded, leads, shorter⟩
      · have opened : opening (c :: text) = (".".toList, c :: text) := by
          rw [opening]
          rintro rest same
          exact absolute (List.cons.inj same).1
        rw [opened] at parsed
        obtain ⟨last, expanded, leads, shorter⟩ := expand_relative absolute plain.clear resolved
        exact ⟨_, last, parsed, expanded, leads, shorter⟩

end Paths

end GoldenCheck.Glob
