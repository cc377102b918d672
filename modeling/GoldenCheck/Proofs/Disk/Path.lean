import GoldenCheck.Disk.Path
import GoldenCheck.Proofs.Order
import GoldenCheck.Proofs.Text.Basic
import Mathlib.Data.List.Nodup

/-!
# Laws of paths

Paths are ordered by their components, so they tie exactly if they are the same
path.  A name that is joined to a folder becomes its last component, whatever
slashes the folder is written with, and a file name is taken apart at its last dot.
-/

namespace GoldenCheck.Path

/-! ## Order -/

namespace Component

theorem key_injective {first second : Component} (same : first.key = second.key) :
    first = second := by
  cases first <;> cases second <;> simp_all [key]

/-- One component comes before another: by its sort, and among names by its
bytes. -/
def Precedes (first second : Component) : Prop :=
  first.key.1 < second.key.1 ∨
    first.key.1 = second.key.1 ∧ List.Lex (· < ·) first.key.2 second.key.2

theorem compare_eq_lt_iff {first second : Component} :
    compare first second = .lt ↔ Precedes first second := by
  have bytes : Ord.compare first.key.2 second.key.2 = .lt ↔
      List.Lex (· < ·) first.key.2 second.key.2 := by
    rw [List.compare_eq_compareLex, compareLex_eq_lt_iff]
    simp only [Std.compare_eq_lt]
  rw [compare, Ordering.then_eq_lt, bytes, Nat.compare_eq_lt, Nat.compare_eq_eq]
  rfl

instance : Std.TransCmp compare :=
  inferInstanceAs (Std.TransCmp
    (compareLex (compareOn fun component : Component => component.key.1)
      (compareOn fun component => component.key.2)))

instance : Std.LawfulEqCmp compare where
  eq_of_compare := by
    intro first second tied
    obtain ⟨sorts, bytes⟩ := Ordering.then_eq_eq.mp tied
    exact key_injective (Prod.ext (Std.LawfulEqOrd.eq_of_compare sorts)
      (Std.LawfulEqOrd.eq_of_compare bytes))

end Component

/-- One path comes before another: at the first place where their components
differ, or by having fewer of them. -/
def Precedes (first second : Path) : Prop :=
  List.Lex Component.Precedes first.components second.components

theorem compare_eq_lt_iff {first second : Path} :
    compare first second = .lt ↔ Precedes first second := by
  rw [compare, compareLex_eq_lt_iff]
  simp only [Component.compare_eq_lt_iff]
  rfl

/-- Paths tie exactly if they are the same path, however they are written. -/
theorem compare_eq_eq_iff {first second : Path} :
    compare first second = .eq ↔ first.components = second.components := by
  rw [compare, Std.LawfulEqCmp.compare_eq_iff_eq]

instance : Std.TransCmp compare :=
  transCmp_on (List.compareLex Component.compare) components

/-- Among paths that are different as paths, the components tell which one it is. -/
theorem eq_of_components_eq {paths : List Path}
    (different : paths.Pairwise fun first second => first.components ≠ second.components)
    {first second : Path} (isFirst : first ∈ paths) (isSecond : second ∈ paths)
    (same : first.components = second.components) : first = second :=
  List.inj_on_of_nodup_map (List.pairwise_map.mpr different) isFirst isSecond same

theorem not_precedes_self (path : Path) : ¬Precedes path path := by
  rw [← compare_eq_lt_iff, compare_eq_eq_iff.mpr rfl]
  decide

theorem Precedes.components_ne {first second : Path} (before : Precedes first second) :
    first.components ≠ second.components := by
  intro same
  rw [← compare_eq_lt_iff, compare_eq_eq_iff.mpr same] at before
  contradiction

/-- If one path comes before another with as many components, everything below it comes
before everything below the other. -/
theorem Precedes.below {first second path other : Path} (before : Precedes first second)
    (level : first.components.length = second.components.length)
    (inFirst : first.components <+: path.components)
    (inSecond : second.components <+: other.components) : Precedes path other := by
  obtain ⟨rest, extended⟩ := inFirst
  obtain ⟨more, alsoExtended⟩ := inSecond
  rw [Precedes] at before ⊢
  rw [← extended, ← alsoExtended]
  generalize first.components = front at before level
  generalize second.components = other at before level
  induction before with
  | nil => simp at level
  | rel component => exact .rel component
  | cons _ ih => exact .cons (ih (Nat.succ.inj level))

/-- Sorting brings different paths into ascending order. -/
theorem pairwise_precedes_sortBy {paths : List Path}
    (different : paths.Pairwise fun first second => first.components ≠ second.components) :
    (sortBy compare paths).Pairwise Precedes := by
  have different := (@perm_sortBy _ compare paths).symm.pairwise different Ne.symm
  refine (pairwise_sortBy _ |>.and different).imp ?_
  rintro first second ⟨ordered, different⟩
  rw [← compare_eq_lt_iff]
  cases side : compare first second with
  | lt => rfl
  | eq => exact absurd (compare_eq_eq_iff.mp side) different
  | gt => exact absurd side ordered

/-- Different paths may be given in any order. -/
theorem sortBy_of_perm {paths others : List Path} (permuted : paths.Perm others)
    (different : paths.Pairwise fun first second => first.components ≠ second.components) :
    sortBy compare paths = sortBy compare others := by
  apply GoldenCheck.sortBy_of_perm permuted
  intro first isFirst second isSecond tied
  exact eq_of_components_eq different isFirst isSecond (compare_eq_eq_iff.mp tied)

/-! ## Names in folders -/

/-- A name: a part of a path that leads down. -/
@[mk_iff]
structure IsName (name : Bytes) : Prop where
  active : isIdle name = false
  down : name ≠ [dot, dot]
  closed : slash ∉ name

instance (name : Bytes) : Decidable (IsName name) :=
  decidable_of_iff' _ (isName_iff name)

theorem IsName.ne_nil {name : Bytes} (isName : IsName name) : name ≠ [] := by
  rintro rfl
  exact absurd isName.active (by decide)

theorem isName_of_length {name : Bytes} (long : 3 ≤ name.length) (closed : slash ∉ name) :
    IsName name where
  active := by
    match name, long with
    | _ :: _ :: _, _ => simp [isIdle]
  down := by
    rintro rfl
    contradiction
  closed := closed

/-- The components that the parts of a path stand for. -/
def partComponents (body : Bytes) : List Component :=
  (Text.pieces slash body).filterMap partComponent?

theorem partComponents_append (front back : Bytes) :
    partComponents (front ++ slash :: back) = partComponents front ++ partComponents back := by
  rw [partComponents, Text.pieces_append_cons, List.filterMap_append]
  rfl

theorem partComponents_name {name : Bytes} (isName : IsName name) :
    partComponents name = [.name name] := by
  have active := isName.active
  rw [partComponents, Text.pieces_of_not_mem isName.closed]
  simp [partComponent?, active, isName.down]

/-- A start that is kept apart says nothing as a part. -/
theorem components_eq (path : Path) :
    path.components = startComponents path.splitStart.1 ++ partComponents path.bytes := by
  obtain ⟨bytes⟩ := path
  rw [components]
  congr 1
  change partComponents _ = _
  rw [splitStart]
  cases bytes with
  | nil => rfl
  | cons first rest =>
      dsimp only
      split
      · rename_i found
        subst found
        exact (partComponents_append [] rest).symm
      · split
        · rename_i found
          obtain ⟨rfl, ended⟩ := found
          rcases ended with empty | next
          · rw [List.isEmpty_iff.mp empty]
            rfl
          · obtain ⟨rest, rfl⟩ := List.head?_eq_some_iff.mp next
            exact (partComponents_append [] rest).trans (partComponents_append [dot] rest).symm
        · rfl

/-- A name is joined to a folder after a slash, which may stand there already. -/
theorem bytes_join {folder : Path} {name : Bytes} (closed : slash ∉ name)
    (written : folder.bytes ≠ []) :
    ∃ body, (folder.join ⟨name⟩).bytes = body ++ slash :: name ∧
      (folder.bytes = body ∨ folder.bytes = body ++ [slash]) := by
  have relative : ¬(Path.mk name).isAbsolute = true := by
    intro absolute
    exact closed (List.mem_of_head? (beq_iff_eq.mp absolute))
  rw [join, if_neg relative]
  split
  · rename_i ended
    have ended : folder.bytes.getLast? = some slash := by simpa [written] using ended
    obtain ⟨body, shape⟩ := List.getLast?_eq_some_iff.mp ended
    exact ⟨body, by simp [shape], .inr shape⟩
  · exact ⟨folder.bytes, rfl, .inl rfl⟩

theorem not_mem_bytes_join {folder path : Path} {byte : UInt8} (notSlash : byte ≠ slash)
    (before : byte ∉ folder.bytes) (after : byte ∉ path.bytes) :
    byte ∉ (folder.join path).bytes := by
  rw [join]
  split
  · exact after
  · split
    · simp [before, after]
    · simp [before, after, notSlash]

theorem length_join_le {folder : Path} {name : Bytes} (closed : slash ∉ name)
    (written : folder.bytes ≠ []) :
    folder.bytes.length + name.length ≤ (folder.join ⟨name⟩).bytes.length := by
  obtain ⟨body, joined, same | ended⟩ := bytes_join closed written
  · simp [joined, same]
  · simp [joined, ended]
    omega

/-- What follows a slash has no part in the start of a path. -/
theorem splitStart_append {body : Bytes} (written : body ≠ []) (back : Bytes) :
    (Path.mk (body ++ slash :: back)).splitStart.1 = (Path.mk body).splitStart.1 := by
  obtain ⟨first, rest, rfl⟩ := List.exists_cons_of_ne_nil written
  simp only [splitStart, List.cons_append]
  by_cases atRoot : first = slash
  · rw [if_pos atRoot, if_pos atRoot]
  · rw [if_neg atRoot, if_neg atRoot]
    have ended : ((rest ++ slash :: back).isEmpty = true ∨
          (rest ++ slash :: back).head? = some slash) ↔
        (rest.isEmpty = true ∨ rest.head? = some slash) := by
      cases rest <;> simp
    simp only [ended]
    split <;> rfl

theorem splitStart_join {folder : Path} {part : Bytes} (closed : slash ∉ part)
    (written : folder.bytes ≠ []) :
    (folder.join ⟨part⟩).splitStart.1 = folder.splitStart.1 := by
  obtain ⟨body, joined, shape⟩ := bytes_join closed written
  rw [show folder.join ⟨part⟩ = ⟨body ++ slash :: part⟩ from congrArg Path.mk joined]
  obtain ⟨bytes⟩ := folder
  rcases shape with same | ended
  · rw [← same]
    exact splitStart_append written part
  · rw [show bytes = body ++ [slash] from ended]
    cases body with
    | nil => rfl
    | cons first rest => rw [splitStart_append (by simp), splitStart_append (by simp)]

theorem components_append {body : Bytes} (written : body ≠ []) (back : Bytes) :
    (Path.mk (body ++ slash :: back)).components =
      (Path.mk body).components ++ partComponents back := by
  rw [components_eq, components_eq, splitStart_append written, partComponents_append,
    List.append_assoc]

theorem splitStart_of_closed {part : Bytes} (closed : slash ∉ part) (notHere : part ≠ [dot]) :
    (Path.mk part).splitStart.1 = [] := by
  cases part with
  | nil => rfl
  | cons first rest =>
      have notRoot : first ≠ slash := (List.ne_of_not_mem_cons closed).symm
      have noDot : ¬(first = dot ∧ (rest.isEmpty = true ∨ rest.head? = some slash)) := by
        rintro ⟨rfl, empty | next⟩
        · exact notHere (by rw [List.isEmpty_iff.mp empty])
        · exact List.not_mem_of_not_mem_cons closed (List.mem_of_head? next)
      simp only [splitStart]
      rw [if_neg notRoot, if_neg noDot]

theorem components_name {name : Bytes} (isName : IsName name) :
    (Path.mk name).components = [.name name] := by
  have notHere : name ≠ [dot] := by
    rintro rfl
    exact absurd isName.active (by decide)
  rw [components_eq, splitStart_of_closed isName.closed notHere, partComponents_name isName]
  rfl

/-- The components of a name in a folder. -/
theorem components_join (folder : Path) {name : Bytes} (isName : IsName name) :
    (folder.join ⟨name⟩).components = folder.components ++ [.name name] := by
  obtain ⟨bytes⟩ := folder
  by_cases empty : bytes = []
  · have alone : (Path.mk bytes).join ⟨name⟩ = ⟨name⟩ := by simp [join, empty]
    rw [alone, components_name isName, empty]
    rfl
  · obtain ⟨body, joined, shape⟩ := bytes_join isName.closed empty
    rw [show (Path.mk bytes).join ⟨name⟩ = ⟨body ++ slash :: name⟩ from congrArg Path.mk joined,
      ← partComponents_name isName]
    rcases shape with rfl | rfl
    · exact components_append empty name
    · cases body with
      | nil => rfl
      | cons first rest =>
          rw [components_append (by simp), components_append (by simp), List.append_assoc]
          rfl

theorem fileName?_join (folder : Path) {name : Bytes} (isName : IsName name) :
    (folder.join ⟨name⟩).fileName? = some name := by
  simp [fileName?, components_join folder isName]

/-! ## Going down -/

@[simp]
theorem joinAll_append_singleton (folder : Path) (names : List Bytes) (name : Bytes) :
    folder.joinAll (names ++ [name]) = (folder.joinAll names).join ⟨name⟩ := by
  simp [joinAll]

theorem components_joinAll (folder : Path) {names : List Bytes}
    (areNames : ∀ name ∈ names, IsName name) :
    (folder.joinAll names).components = folder.components ++ names.map .name := by
  induction names generalizing folder with
  | nil => simp [joinAll]
  | cons name names ih =>
      obtain ⟨isName, areNames⟩ := List.forall_mem_cons.mp areNames
      change ((folder.join ⟨name⟩).joinAll names).components = _
      rw [ih _ areNames, components_join folder isName]
      simp

/-- Different ways down from a folder are different paths. -/
theorem joinAll_inj {folder : Path} {names others : List Bytes}
    (areNames : ∀ name ∈ names, IsName name) (alsoNames : ∀ name ∈ others, IsName name) :
    folder.joinAll names = folder.joinAll others ↔ names = others := by
  constructor
  · intro same
    have components := congrArg Path.components same
    rw [components_joinAll folder areNames, components_joinAll folder alsoNames,
      List.append_cancel_left_eq] at components
    exact List.map_injective_iff.mpr (fun _ _ => Component.name.inj) components
  · exact congrArg folder.joinAll

/-- The number of bytes in front of a name that is joined to a path. -/
def lead (path : Path) : Nat :=
  if path.bytes.isEmpty || path.bytes.getLast? == some slash then path.bytes.length
  else path.bytes.length + 1

theorem lead_le (path : Path) : path.lead ≤ path.bytes.length + 1 := by
  rw [lead]
  split <;> omega

theorem length_le_lead (path : Path) : path.bytes.length ≤ path.lead := by
  rw [lead]
  split <;> omega

theorem lead_cons (first : UInt8) {bytes : Bytes} (written : bytes ≠ []) :
    (Path.mk (first :: bytes)).lead = (Path.mk bytes).lead + 1 := by
  obtain ⟨second, rest, rfl⟩ := List.exists_cons_of_ne_nil written
  simp only [lead, List.getLast?_cons_cons, List.isEmpty_cons, List.length_cons]
  split <;> rfl

theorem length_join (folder : Path) {part : Bytes} (closed : slash ∉ part) :
    (folder.join ⟨part⟩).bytes.length = folder.lead + part.length := by
  have relative : ¬(Path.mk part).isAbsolute = true := by
    intro absolute
    exact closed (List.mem_of_head? (beq_iff_eq.mp absolute))
  rw [join, if_neg relative, lead]
  split
  · simp
  · simp only [List.length_append, List.length_cons]
    omega

theorem length_le_length_join (folder : Path) {part : Bytes} (closed : slash ∉ part) :
    folder.bytes.length ≤ (folder.join ⟨part⟩).bytes.length := by
  rw [length_join folder closed]
  exact folder.length_le_lead.trans (Nat.le_add_right _ _)

theorem length_lt_length_join (folder : Path) {name : Bytes} (isName : IsName name) :
    folder.bytes.length < (folder.join ⟨name⟩).bytes.length := by
  rw [length_join folder isName.closed]
  exact folder.length_le_lead.trans_lt
    (Nat.lt_add_of_pos_right (List.length_pos_iff.mpr isName.ne_nil))

theorem length_le_length_joinAll (folder : Path) {parts : List Bytes}
    (closed : ∀ part ∈ parts, slash ∉ part) :
    folder.bytes.length ≤ (folder.joinAll parts).bytes.length := by
  induction parts generalizing folder with
  | nil => exact Nat.le_refl _
  | cons part parts ih =>
      obtain ⟨here, later⟩ := List.forall_mem_cons.mp closed
      exact (folder.length_le_length_join here).trans (ih (folder.join ⟨part⟩) later)

theorem lead_join (folder : Path) {name : Bytes} (isName : IsName name) :
    (folder.join ⟨name⟩).lead = folder.lead + name.length + 1 := by
  have filled := isName.ne_nil
  obtain ⟨front, ended⟩ : ∃ front, (folder.join ⟨name⟩).bytes = front ++ name := by
    rw [join]
    split
    · exact ⟨[], rfl⟩
    · split
      · exact ⟨folder.bytes, rfl⟩
      · exact ⟨folder.bytes ++ [slash], by simp⟩
  have last : (folder.join ⟨name⟩).bytes.getLast? ≠ some slash := by
    rw [ended, List.getLast?_append_of_ne_nil _ filled]
    intro found
    exact isName.closed (List.mem_of_getLast? found)
  have written : (folder.join ⟨name⟩).bytes ≠ [] := by
    rw [ended]
    simp [filled]
  rw [lead, if_neg (by simp [written, last]), length_join folder isName.closed]

/-- The path down from a folder is no longer than the same path down from one that
takes as much room. -/
theorem length_joinAll_le {folder other : Path} {names : List Bytes}
    (areNames : ∀ name ∈ names, IsName name) (nonempty : names ≠ [])
    (shorter : folder.lead ≤ other.lead) :
    (folder.joinAll names).bytes.length ≤ (other.joinAll names).bytes.length := by
  induction names generalizing folder other with
  | nil => contradiction
  | cons name names ih =>
      obtain ⟨isName, areNames⟩ := List.forall_mem_cons.mp areNames
      change ((folder.join ⟨name⟩).joinAll names).bytes.length ≤
        ((other.join ⟨name⟩).joinAll names).bytes.length
      cases names with
      | nil =>
          change (folder.join ⟨name⟩).bytes.length ≤ (other.join ⟨name⟩).bytes.length
          rw [length_join folder isName.closed, length_join other isName.closed]
          omega
      | cons second names =>
          apply ih areNames (by simp)
          rw [lead_join folder isName, lead_join other isName]
          omega

/-! ## Stems and extensions -/

theorem splitName_of_not_mem {name : Bytes} (plain : dot ∉ name) :
    splitName name = (name, none) := by
  simp [splitName, plain]

theorem splitName_append {stem extension : Bytes} (plain : dot ∉ extension) :
    splitName (stem ++ dot :: extension) =
      if stem = [] then (dot :: extension, none) else (stem, some extension) := by
  have backward : (stem ++ dot :: extension).reverse =
      extension.reverse ++ dot :: stem.reverse := by simp
  have beyond : ∀ byte ∈ extension.reverse, decide (byte ≠ dot) = true := by
    intro byte member
    rw [List.mem_reverse] at member
    exact decide_eq_true fun found => plain (found ▸ member)
  rw [splitName, backward, List.takeWhile_append_of_pos beyond,
    List.dropWhile_append_of_pos beyond]
  by_cases front : stem = [] <;> simp [front]

/-- A name has an extension if it has a dot that is not in front; the extension is
what follows the last one. -/
theorem splitName_eq_some_iff {name stem extension : Bytes} :
    splitName name = (stem, some extension) ↔
      name = stem ++ dot :: extension ∧ stem ≠ [] ∧ dot ∉ extension := by
  constructor
  · intro split
    by_cases dotted : dot ∈ name
    · obtain ⟨after, before, backward, plain⟩ :=
        List.eq_append_cons_of_mem (List.mem_reverse.mpr dotted)
      have shape : name = before.reverse ++ dot :: after.reverse := by
        rw [← List.reverse_reverse name, backward]
        simp
      have plain : dot ∉ after.reverse := by simpa using plain
      rw [shape, splitName_append plain] at split
      split at split
      · simp at split
      · rename_i filled
        obtain ⟨rfl, ended⟩ := Prod.mk.inj split
        obtain rfl := Option.some.inj ended
        exact ⟨shape, filled, plain⟩
    · rw [splitName_of_not_mem dotted] at split
      simp at split
  · rintro ⟨rfl, filled, plain⟩
    rw [splitName_append plain, if_neg filled]

end GoldenCheck.Path
