import GoldenCheck.Proofs.Selection.Patterns

/-!
# Selecting a folder

A plain pattern that leads to a folder selects the Python files at any depth below it,
each of them once.  It selects nothing exactly if there are none.
-/

namespace GoldenCheck.Selection

open Disk

/-- A Python file at any depth below the folder at a location. -/
def IsPythonBelow (disk : Disk) (location place : Location) : Prop :=
  ∃ front name stem extension contents, place = location ++ (front ++ [name]) ∧
    IsPythonName name stem extension ∧ disk.entry? place = some (.file contents)

/-- Paths that lead to the Python files below a folder, each file having one path. -/
structure Covers (disk : Disk) (location : Location) (files : List Path) : Prop where
  sound : ∀ path ∈ files, ∃ place contents, IsPythonBelow disk location place ∧
    disk.resolve path = .ok (place, .file contents)
  complete : ∀ place, IsPythonBelow disk location place →
    ∃ path ∈ files, ∃ contents, disk.resolve path = .ok (place, .file contents)
  once : files.Pairwise fun first second => ∀ place entry another,
    disk.resolve first = .ok (place, entry) → disk.resolve second ≠ .ok (place, another)

theorem Covers.eq_nil_iff {disk : Disk} {location : Location} {files : List Path}
    (covers : Covers disk location files) :
    files = [] ↔ ∀ place, ¬IsPythonBelow disk location place := by
  constructor
  · rintro rfl place isPython
    obtain ⟨path, member, -⟩ := covers.complete place isPython
    contradiction
  · intro nothing
    rw [List.eq_nil_iff_forall_not_mem]
    intro path member
    obtain ⟨place, -, isPython, -⟩ := covers.sound path member
    exact nothing place isPython

/-- Every path below a folder is short enough to be followed. -/
def Followable (disk : Disk) (folder : Path) (location : Location) : Prop :=
  ∀ row ∈ disk.below location, (folder.joinAll row.1).bytes.length ≤ longestPath

instance (disk : Disk) (folder : Path) (location : Location) :
    Decidable (Followable disk folder location) :=
  decidable_of_iff
    (∀ row ∈ disk.entries.filterMap (rowBelow? location),
      (folder.joinAll row.1).bytes.length ≤ longestPath)
    (forall_congr' fun _ => imp_congr_left (perm_below disk location).mem_iff.symm)

section Folder

variable {disk : Disk} {folder : Path} {location below : Location} {entry : Entry}

theorem Followable.of_lead_le {other : Path} (followable : Followable disk folder location)
    (tree : disk.WellFormed) (shorter : other.lead ≤ folder.lead) :
    Followable disk other location := by
  rintro ⟨below, entry⟩ member
  have areNames : ∀ name ∈ below, Path.IsName name := by
    intro name inside
    exact (tree.isFileName_of_mem_below member inside).toIsName
  have nonempty := (tree.mem_below_iff.mp member).1
  exact (Path.length_joinAll_le areNames nonempty shorter).trans (followable _ member)

/-- As long as every path can be followed, the entries tell which of them are files. -/
theorem mem_filesAt_iff_of_followable (tree : disk.IsTree)
    (resolved : disk.resolve folder = .ok (location, .folder))
    (followable : Followable disk folder location) {path : Path} :
    path ∈ filesAt disk folder ↔
      ∃ below contents, path = folder.joinAll below ∧
        IsPythonBelow disk location (location ++ below) ∧
        disk.resolve path = .ok (location ++ below, .file contents) := by
  rw [mem_filesAt_iff tree resolved]
  constructor
  · rintro ⟨front, name, stem, extension, entry, rfl, isPython, found, -, tooLong⟩
    have short := followable _ (tree.mem_below_iff.mpr ⟨by simp, found⟩)
    cases entry with
    | folder => exact absurd short (Nat.not_le.mpr (tooLong rfl))
    | file contents =>
        exact ⟨front ++ [name], contents, rfl,
          ⟨front, name, stem, extension, contents, rfl, isPython, found⟩,
          tree.resolve_joinAll resolved found short⟩
  · rintro ⟨below, contents, rfl, ⟨front, name, stem, extension, _, same, isPython, found⟩, -⟩
    obtain rfl := List.append_cancel_left same
    have inside := tree.mem_below_iff.mpr ⟨by simp, found⟩
    have isName : IsFileName name := tree.isFileName_of_mem_below inside (by simp)
    have short := followable _ inside
    rw [Path.joinAll_append_singleton] at short
    have shorter := (folder.joinAll front).length_le_length_join isName.closed
    exact ⟨front, name, stem, extension, _, rfl, isPython, found, shorter.trans short,
      fun isFolder => nomatch isFolder⟩

theorem covers_filesAt (tree : disk.IsTree)
    (resolved : disk.resolve folder = .ok (location, .folder))
    (followable : Followable disk folder location) :
    Covers disk location (filesAt disk folder) := by
  have member {path : Path} :=
    @mem_filesAt_iff_of_followable disk folder location tree resolved followable path
  refine ⟨?_, ?_, ?_⟩
  · intro path selected
    obtain ⟨below, contents, -, isPython, leads⟩ := member.mp selected
    exact ⟨_, contents, isPython, leads⟩
  · intro place isPython
    have stands := isPython
    obtain ⟨front, name, _, _, contents, rfl, -, found⟩ := stands
    have short := followable _ (tree.mem_below_iff.mpr ⟨by simp, found⟩)
    have leads := tree.resolve_joinAll resolved found short
    exact ⟨_, member.mpr ⟨_, contents, rfl, isPython, leads⟩, contents, leads⟩
  · refine (pairwise_filesWithin tree.toWellFormed _ folder).imp_of_mem ?_
    intro first second isFirst isSecond before place entry another toFirst toSecond
    obtain ⟨below, _, rfl, -, leads⟩ := member.mp isFirst
    obtain ⟨_, _, rfl, -, leadsToo⟩ := member.mp isSecond
    rw [leads, Except.ok.injEq, Prod.mk.injEq] at toFirst
    rw [leadsToo, Except.ok.injEq, Prod.mk.injEq] at toSecond
    obtain rfl := List.append_cancel_left (toFirst.1.trans toSecond.1.symm)
    exact Path.not_precedes_self _ before

end Folder

/-- Different paths are all kept. -/
theorem distinct_eq_self {paths : List Path}
    (different : paths.Pairwise fun first second => first.components ≠ second.components) :
    distinct paths = paths := by
  induction paths using List.reverseRecOn with
  | nil => rfl
  | append_singleton paths path ih =>
      obtain ⟨before, -, apart⟩ := List.pairwise_append.mp different
      have fresh : ¬paths.any path.same = true := by
        rw [any_same_iff]
        rintro ⟨earlier, member, same⟩
        exact apart earlier member path List.mem_cons_self same
      rw [distinct_concat, ih before, if_neg fresh]

/-- A plain pattern that leads to a folder selects the Python files below it. -/
theorem files_of_plain {disk : Disk} {location : Location} {text : Text} (tree : disk.IsTree)
    (plain : Glob.IsPlain text)
    (resolved : disk.resolve (Path.ofText text) = .ok (location, .folder))
    (followable : Followable disk (Path.ofText text) location) :
    ∃ selected, Covers disk location selected ∧
      files disk [text] =
        if selected.isEmpty then .error (.noMatch text) else .ok selected := by
  obtain ⟨plan, last, parsed, expanded, leads, shorter⟩ := Glob.paths_of_plain plain resolved
  have followable := followable.of_lead_le tree.toWellFormed shorter
  have different : (filesAt disk last).Pairwise
      fun first second => first.components ≠ second.components :=
    (pairwise_filesWithin tree.toWellFormed _ last).imp Path.Precedes.components_ne
  refine ⟨_, covers_filesAt tree leads followable, ?_⟩
  have matching : filesMatching disk text =
      if (filesAt disk last).isEmpty then .error (.noMatch text) else .ok (filesAt disk last) := by
    rw [filesMatching, parsed]
    change (failWith (.expansion text) (Glob.paths disk plan) >>= _) = _
    rw [expanded]
    change (if ([last].flatMap (filesAt disk)).isEmpty then _ else _) = _
    rw [List.flatMap_singleton]
  rw [files, List.mapM_cons, matching]
  split
  · rfl
  · change Except.ok (distinct (filesAt disk last ++ [])) = _
    rw [List.append_nil, distinct_eq_self different]

end GoldenCheck.Selection
