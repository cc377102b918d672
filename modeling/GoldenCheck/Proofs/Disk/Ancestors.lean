import GoldenCheck.Proofs.Disk.Path
import Mathlib.Data.List.Infix

/-!
# Climbing

Climbing from a path takes its last component away, one after the other, until none is
left or only the root.  The paths on the way are written as the path itself is, up to the
place where they end, so what they mean follows from where the path is cut.
-/

namespace GoldenCheck.Path

/-! ## Cutting a path -/

theorem splitStart_fst_append_snd (path : Path) :
    path.splitStart.1 ++ path.splitStart.2 = path.bytes := by
  obtain ⟨bytes⟩ := path
  cases bytes with
  | nil => rfl
  | cons first rest =>
      rw [splitStart]
      dsimp only
      split
      · rename_i atRoot
        rw [atRoot]
        rfl
      · split
        · rename_i here
          rw [here.1]
          rfl
        · rfl

theorem splitStart_fst_cases (path : Path) :
    path.splitStart.1 = [] ∨ path.splitStart.1 = [slash] ∨ path.splitStart.1 = [dot] := by
  obtain ⟨bytes⟩ := path
  cases bytes with
  | nil => exact .inl rfl
  | cons first rest =>
      rw [splitStart]
      dsimp only
      split
      · exact .inr (.inl rfl)
      · split
        · exact .inr (.inr rfl)
        · exact .inl rfl

/-- A start that is kept apart is the start of the path that consists of it. -/
theorem splitStart_of_start (path : Path) :
    (Path.mk path.splitStart.1).splitStart.1 = path.splitStart.1 := by
  rcases path.splitStart_fst_cases with start | start | start <;> rw [start] <;> rfl

theorem join_append {front back : List Bytes} (inFront : front ≠ []) (behind : back ≠ []) :
    Text.join [slash] (front ++ back) =
      Text.join [slash] front ++ slash :: Text.join [slash] back := by
  induction front with
  | nil => contradiction
  | cons part front ih =>
      cases front with
      | nil =>
          obtain ⟨next, back, rfl⟩ := List.exists_cons_of_ne_nil behind
          simp [Text.join, List.intercalate_cons_cons]
      | cons next front =>
          have rest := ih (by simp)
          simp only [Text.join, List.cons_append, List.intercalate_cons_cons] at rest ⊢
          rw [rest]
          simp

theorem partComponents_join {parts : List Bytes} (closed : ∀ part ∈ parts, slash ∉ part) :
    partComponents (Text.join [slash] parts) = parts.filterMap partComponent? := by
  induction parts with
  | nil => rfl
  | cons part parts ih =>
      obtain ⟨closedPart, closedParts⟩ := List.forall_mem_cons.mp closed
      have single : partComponents part = [part].filterMap partComponent? := by
        rw [partComponents, Text.pieces_of_not_mem closedPart]
      cases parts with
      | nil => simpa [Text.join] using single
      | cons next parts =>
          have cut := join_append (List.cons_ne_nil part []) (List.cons_ne_nil next parts)
          rw [List.singleton_append] at cut
          have divided : (part :: next :: parts).filterMap partComponent? =
              [part].filterMap partComponent? ++ (next :: parts).filterMap partComponent? := by
            rw [← List.filterMap_append, List.singleton_append]
          rw [cut, partComponents_append, ih closedParts, divided, ← single]
          simp [Text.join]

section Cut

variable {path : Path} {kept dropped : List Bytes}

/-- Where a path is cut before one of its parts, its start stays the start. -/
theorem splitStart_rebuild
    (cut : Text.pieces slash path.splitStart.2 = kept ++ dropped) :
    (rebuild path.splitStart.1 kept.reverse).splitStart =
      (path.splitStart.1, Text.join [slash] kept) := by
  have whole := path.splitStart_fst_append_snd
  rw [← Text.join_pieces slash path.splitStart.2, cut] at whole
  have start : (rebuild path.splitStart.1 kept.reverse).splitStart.1 = path.splitStart.1 := by
    rw [rebuild, List.reverse_reverse]
    by_cases nothing : kept = []
    · subst nothing
      simpa [Text.join] using path.splitStart_of_start
    · by_cases all : dropped = []
      · subst all
        rw [List.append_nil] at whole
        rw [whole]
      · rw [join_append nothing all, ← List.append_assoc] at whole
        by_cases empty : path.splitStart.1 ++ Text.join [slash] kept = []
        · rw [empty]
          exact (List.append_eq_nil_iff.mp empty).1.symm
        · rw [← splitStart_append empty, whole]
  have rest := (rebuild path.splitStart.1 kept.reverse).splitStart_fst_append_snd
  rw [start] at rest
  have rest : (rebuild path.splitStart.1 kept.reverse).splitStart.2 = Text.join [slash] kept := by
    apply List.append_cancel_left
    rw [rest, rebuild, List.reverse_reverse]
  exact Prod.ext start rest

theorem components_rebuild
    (cut : Text.pieces slash path.splitStart.2 = kept ++ dropped) :
    (rebuild path.splitStart.1 kept.reverse).components =
      startComponents path.splitStart.1 ++ kept.filterMap partComponent? := by
  have closed : ∀ part ∈ kept, slash ∉ part := by
    intro part member inside
    have isPiece : part ∈ Text.pieces slash path.splitStart.2 := by
      rw [cut]
      exact List.mem_append_left _ member
    exact (Text.mem_of_mem_pieces isPiece inside).2 rfl
  rw [components, splitStart_rebuild cut]
  exact congrArg _ (partComponents_join closed)

end Cut

/-! ## Climbing -/

theorem suffix_of_mem_climb {reversed rest : List Bytes} (member : rest ∈ climb reversed) :
    rest <:+ reversed := by
  induction reversed with
  | nil => contradiction
  | cons part reversed ih =>
      rw [climb] at member
      split at member
      · exact (ih member).trans (List.suffix_cons part reversed)
      · rcases List.mem_cons.mp member with rfl | later
        · exact (List.dropWhile_suffix isIdle).trans (List.suffix_cons part reversed)
        · exact (ih later).trans (List.suffix_cons part reversed)

theorem filterMap_dropWhile_isIdle (parts : List Bytes) :
    (parts.dropWhile isIdle).filterMap partComponent? = parts.filterMap partComponent? := by
  induction parts with
  | nil => rfl
  | cons part parts ih =>
      by_cases idle : isIdle part = true
      · rw [List.dropWhile_cons_of_pos idle, ih]
        simp [partComponent?, idle]
      · rw [List.dropWhile_cons_of_neg idle]

/-- Every step of a climb takes one component away. -/
theorem map_filterMap_climb (reversed : List Bytes) :
    (climb reversed).map (fun rest => rest.filterMap partComponent?) =
      (reversed.filterMap partComponent?).tails.tail := by
  induction reversed with
  | nil => rfl
  | cons part reversed ih =>
      rw [climb]
      by_cases idle : isIdle part = true
      · rw [if_pos idle, ih]
        simp [partComponent?, idle]
      · obtain ⟨component, active⟩ : ∃ component, partComponent? part = some component := by
          rw [partComponent?, if_neg idle]
          split <;> exact ⟨_, rfl⟩
        rw [if_neg idle, List.map_cons, ih, filterMap_dropWhile_isIdle, List.filterMap_cons, active]
        cases reversed.filterMap partComponent? <;> rfl

/-! ## Ancestors -/

theorem isAbsolute_iff {path : Path} : path.isAbsolute = true ↔ path.splitStart.1 = [slash] := by
  obtain ⟨bytes⟩ := path
  cases bytes with
  | nil => decide
  | cons first rest =>
      rw [isAbsolute, splitStart]
      dsimp only
      split
      · simp_all
      · split <;> simp_all [slash, dot]

/-- The components of the paths on a climb are those of the path, less some at the end. -/
theorem map_components_climb (path : Path) :
    ((climb (Text.pieces slash path.splitStart.2).reverse).map (rebuild path.splitStart.1)).map
        components =
      (partComponents path.splitStart.2).reverse.tails.tail.map
        fun back => startComponents path.splitStart.1 ++ back.reverse := by
  rw [partComponents, ← List.filterMap_reverse, ← map_filterMap_climb, List.map_map, List.map_map]
  apply List.map_congr_left
  intro rest member
  obtain ⟨dropped, cut⟩ := suffix_of_mem_climb member
  have cut : Text.pieces slash path.splitStart.2 = rest.reverse ++ dropped.reverse := by
    rw [← List.reverse_append, cut, List.reverse_reverse]
  have cutAt := components_rebuild cut
  rwa [List.reverse_reverse, List.filterMap_reverse] at cutAt

/-- The paths from the farthest ancestor down to a path have more and more of its
components, beginning with none or, for an absolute path, with the root. -/
theorem reverse_map_components_ancestors (path : Path) :
    (path.ancestors.map components).reverse =
      if path.isAbsolute then path.components.inits.tail else path.components.inits := by
  have longest (names : List Component) : names.tails = names :: names.tails.tail := by
    cases names <;> rfl
  have climbed : path.components ::
      ((climb (Text.pieces slash path.splitStart.2).reverse).map (rebuild path.splitStart.1)).map
        components =
      (partComponents path.splitStart.2).reverse.tails.map
        fun back => startComponents path.splitStart.1 ++ back.reverse := by
    rw [longest, List.map_cons, ← map_components_climb, List.reverse_reverse]
    rfl
  have shortened : (path.components ::
      ((climb (Text.pieces slash path.splitStart.2).reverse).map (rebuild path.splitStart.1)).map
        components).reverse =
      (partComponents path.splitStart.2).inits.map (startComponents path.splitStart.1 ++ ·) := by
    rw [climbed, List.inits_eq_tails, List.map_reverse, List.map_map]
    rfl
  have written : path.components =
      startComponents path.splitStart.1 ++ partComponents path.splitStart.2 := rfl
  rw [ancestors, List.map_append, List.reverse_append, List.map_cons, shortened, written]
  have nowhere : (Path.mk []).components = [] := rfl
  simp only [isAbsolute_iff]
  rcases path.splitStart_fst_cases with start | start | start
  · simp [start, startComponents, slash, dot]
  · simp [start, startComponents, slash, dot]
  · simp [start, startComponents, slash, dot, nowhere]

theorem exists_inits_eq_append {α : Type} (elements : List α) :
    ∃ shorter, elements.inits = shorter ++ [elements] ∧ (elements ≠ [] → shorter ≠ []) := by
  rcases List.eq_nil_or_concat' elements with rfl | ⟨front, last, rfl⟩
  · exact ⟨[], rfl, nofun⟩
  · refine ⟨front.inits, ?_, fun _ => ?_⟩
    · simp [List.inits_append]
    · cases front <;> simp

/-- The path above a path that ends in a name has all its components but the name. -/
theorem exists_parent?_eq_some {path : Path} {front : List Component} {name : Bytes}
    (ends : path.components = front ++ [.name name]) :
    ∃ above, path.parent? = some above ∧ above.components = front := by
  obtain ⟨shorter, segments, filled⟩ := exists_inits_eq_append front
  have all : path.components.inits = shorter ++ [front, path.components] := by
    rw [ends, List.inits_append, segments]
    simp
  have climbed : ∃ farther,
      (path.ancestors.map components).reverse = farther ++ [front, path.components] := by
    rw [reverse_map_components_ancestors, all]
    split
    · rename_i absolute
      -- The root is a component of its own, in front of the name.
      have rooted : front ≠ [] := by
        rintro rfl
        rw [components, isAbsolute_iff.mp absolute] at ends
        simp [startComponents] at ends
      obtain ⟨first, rest, rfl⟩ := List.exists_cons_of_ne_nil (filled rooted)
      exact ⟨rest, rfl⟩
    · exact ⟨shorter, rfl⟩
  obtain ⟨farther, climbed⟩ := climbed
  have second : (path.ancestors.map components)[1]? = some front := by
    rw [← List.reverse_reverse (path.ancestors.map components), climbed]
    simp
  rw [List.getElem?_map] at second
  exact Option.map_eq_some_iff.mp second

end GoldenCheck.Path
