import GoldenCheck.Proofs.Disk.Tree
import GoldenCheck.Proofs.Pairing
import GoldenCheck.Selection

/-!
# Going down a folder

A folder is searched depth first, and only the paths that stand in the same folder are
sorted against each other.  Everything below one of two neighbours comes before
everything below the other, whatever names it has, so the files come out in ascending
order all the same.

Paths get longer on the way down.  The search ends where they can no longer be followed,
and before that it has come to everything below the folder.
-/

namespace GoldenCheck.Selection

open Disk

/-! ## One step down -/

/-- The paths of what stands directly inside a folder, in ascending order. -/
def sortedInside (disk : Disk) (folder : Path) (location : Location) : List Path :=
  sortBy Path.compare ((disk.namesIn location).map fun name => folder.join ⟨name⟩)

section Step

variable {disk : Disk} {folder path : Path} {location : Location}

theorem mem_sortedInside_iff :
    path ∈ sortedInside disk folder location ↔
      ∃ name ∈ disk.namesIn location, folder.join ⟨name⟩ = path := by
  rw [sortedInside, (perm_sortBy _).mem_iff, List.mem_map]

theorem pairwise_sortedInside (tree : disk.WellFormed) (folder : Path) (location : Location) :
    (sortedInside disk folder location).Pairwise Path.Precedes :=
  Path.pairwise_precedes_sortBy (tree.pairwise_join location folder)

/-- The order in which a folder lists its names makes no difference. -/
theorem sortedInside_of_sameTree {other : Disk} (tree : disk.WellFormed)
    (same : SameTree disk other) (folder : Path) (location : Location) :
    sortedInside disk folder location = sortedInside other folder location :=
  Path.sortBy_of_perm ((same.rows.filterMap _).map _) (tree.pairwise_join location folder)

theorem filesWithin_of_folder (resolved : disk.resolve folder = .ok (location, .folder))
    (steps : Nat) :
    filesWithin disk (steps + 1) folder =
      (sortedInside disk folder location).flatMap (filesWithin disk steps) := by
  rw [filesWithin, list_eq_ok resolved]
  rfl

/-- What is not a folder selects itself, however many steps are left. -/
theorem filesWithin_of_not_folder
    (noFolder : ∀ location, disk.resolve path ≠ .ok (location, .folder)) (steps : Nat) :
    filesWithin disk steps path = selfIfPython path := by
  cases steps with
  | zero => rfl
  | succ steps =>
      rw [filesWithin]
      split
      · rename_i inside listed
        obtain ⟨⟨location, entry⟩, resolved, listed⟩ := bind_eq_ok_iff.mp listed
        obtain ⟨_, isFolder, -⟩ := bind_eq_ok_iff.mp listed
        obtain ⟨-, -, found⟩ := resolve_eq_ok_iff.mp resolved
        rw [requireFolder_eq_ok_iff.mp isFolder, Option.some.injEq] at found
        subst found
        exact absurd resolved (noFolder location)
      · rfl

theorem mem_selfIfPython_iff : path ∈ selfIfPython folder ↔ path = folder ∧ folder.isPython := by
  rw [selfIfPython]
  split
  · rename_i isPython
    simp [isPython]
  · rename_i isOther
    simp [isOther]

end Step

/-! ## Order -/

section Order

variable {disk : Disk}

/-- Everything that a path selects stands below it, or is the path itself. -/
theorem components_prefix_of_mem (tree : disk.WellFormed) {steps : Nat} {folder path : Path}
    (member : path ∈ filesWithin disk steps folder) : folder.components <+: path.components := by
  induction steps generalizing folder with
  | zero =>
      obtain ⟨rfl, -⟩ := mem_selfIfPython_iff.mp member
      exact List.prefix_rfl
  | succ steps ih =>
      by_cases isFolder : ∃ location, disk.resolve folder = .ok (location, .folder)
      · obtain ⟨location, resolved⟩ := isFolder
        rw [filesWithin_of_folder resolved, List.mem_flatMap] at member
        obtain ⟨child, inside, member⟩ := member
        obtain ⟨name, listed, rfl⟩ := mem_sortedInside_iff.mp inside
        have further := ih member
        rw [Path.components_join _ (tree.isFileName listed).toIsName] at further
        exact (List.prefix_append _ _).trans further
      · rw [filesWithin_of_not_folder (not_exists.mp isFolder)] at member
        obtain ⟨rfl, -⟩ := mem_selfIfPython_iff.mp member
        exact List.prefix_rfl

/-- The files come in ascending order, although only neighbours are sorted. -/
theorem pairwise_filesWithin (tree : disk.WellFormed) (steps : Nat) (folder : Path) :
    (filesWithin disk steps folder).Pairwise Path.Precedes := by
  have alone (path : Path) : (selfIfPython path).Pairwise Path.Precedes := by
    rw [selfIfPython]
    split
    · exact List.pairwise_singleton _ _
    · exact .nil
  induction steps generalizing folder with
  | zero => exact alone folder
  | succ steps ih =>
      by_cases isFolder : ∃ location, disk.resolve folder = .ok (location, .folder)
      · obtain ⟨location, resolved⟩ := isFolder
        rw [filesWithin_of_folder resolved, List.pairwise_flatMap]
        refine ⟨fun child _ => ih child, ?_⟩
        refine (pairwise_sortedInside tree folder location).imp_of_mem ?_
        intro first second isFirst isSecond before path inFirst other inSecond
        have level {child : Path} (inside : child ∈ sortedInside disk folder location) :
            child.components.length = folder.components.length + 1 := by
          obtain ⟨name, listed, rfl⟩ := mem_sortedInside_iff.mp inside
          rw [Path.components_join _ (tree.isFileName listed).toIsName, List.length_append]
          rfl
        exact before.below ((level isFirst).trans (level isSecond).symm)
          (components_prefix_of_mem tree inFirst) (components_prefix_of_mem tree inSecond)
      · rw [filesWithin_of_not_folder (not_exists.mp isFolder)]
        exact alone folder

/-- In whichever order each folder lists its names, the same files come out. -/
theorem filesWithin_of_sameTree {other : Disk} (tree : disk.WellFormed)
    (same : SameTree disk other) (steps : Nat) (folder : Path) :
    filesWithin disk steps folder = filesWithin other steps folder := by
  induction steps generalizing folder with
  | zero => rfl
  | succ steps ih =>
      have resolves := same.resolve_eq tree folder
      by_cases isFolder : ∃ location, disk.resolve folder = .ok (location, .folder)
      · obtain ⟨location, resolved⟩ := isFolder
        rw [filesWithin_of_folder resolved, filesWithin_of_folder (resolves ▸ resolved),
          sortedInside_of_sameTree tree same, funext ih]
      · have noFolder := not_exists.mp isFolder
        rw [filesWithin_of_not_folder noFolder, filesWithin_of_not_folder (resolves ▸ noFolder)]

end Order

/-! ## Everything below a folder -/

/-- A Python file at any depth below a folder, by its path.  A folder counts as a file
if its path is too long to be followed, and then nothing is found below it. -/
def IsSelected (disk : Disk) (folder : Path) (location : Location) (path : Path) : Prop :=
  ∃ front name stem extension entry, path = folder.joinAll (front ++ [name]) ∧
    IsPythonName name stem extension ∧
    disk.entry? (location ++ (front ++ [name])) = some entry ∧
    (folder.joinAll front).bytes.length ≤ longestPath ∧
    (entry = .folder → longestPath < path.bytes.length)

section Below

variable {disk : Disk} {folder path : Path} {location : Location}

/-- The path of something below a folder goes through one name in the folder.  Either it
ends there, or that is a folder too. -/
theorem isSelected_iff (tree : disk.IsTree)
    (resolved : disk.resolve folder = .ok (location, .folder)) :
    IsSelected disk folder location path ↔
      ∃ name ∈ disk.namesIn location,
        (disk.resolve (folder.join ⟨name⟩) = .ok (location ++ [name], .folder) ∧
          IsSelected disk (folder.join ⟨name⟩) (location ++ [name]) path) ∨
        ((∀ place, disk.resolve (folder.join ⟨name⟩) ≠ .ok (place, .folder)) ∧
          path ∈ selfIfPython (folder.join ⟨name⟩)) := by
  constructor
  · rintro ⟨front, last, stem, extension, entry, rfl, isPython, found, short, tooLong⟩
    cases front with
    | nil =>
        have listed : last ∈ disk.namesIn location := mem_namesIn_iff.mpr ⟨entry, found⟩
        have isName := tree.isFileName listed
        refine ⟨last, listed, .inr ⟨?_, ?_⟩⟩
        · intro place leads
          obtain ⟨followed, rfl, isFolder⟩ := (resolve_join_eq_ok_iff resolved isName).mp leads
          have long := tooLong (Option.some.inj (found.symm.trans isFolder))
          exact absurd followed (Nat.not_le.mpr long)
        · apply mem_selfIfPython_iff.mpr
          exact ⟨rfl, (isPython_join_iff isName.toIsName).mpr ⟨stem, extension, isPython⟩⟩
    | cons name front =>
        have inside : (name :: front ++ [last], entry) ∈ disk.below location :=
          tree.mem_below_iff.mpr ⟨by simp, found⟩
        rw [List.cons_append, ← List.singleton_append, ← List.append_assoc] at found
        have isFolder := tree.above_append (by simp) found
        have listed : name ∈ disk.namesIn location := mem_namesIn_iff.mpr ⟨_, isFolder⟩
        have closed : ∀ part ∈ front, Path.slash ∉ part := by
          intro part member
          exact (tree.isFileName_of_mem_below inside (by simp [member])).closed
        have shorter := (folder.join ⟨name⟩).length_le_length_joinAll closed
        refine ⟨name, listed, .inl ⟨?_, ?_⟩⟩
        · exact (resolve_join_eq_ok_iff resolved (tree.isFileName listed)).mpr
            ⟨shorter.trans short, rfl, isFolder⟩
        · exact ⟨front, last, stem, extension, entry, rfl, isPython, found, short, tooLong⟩
  · rintro ⟨name, listed, ⟨leads, selected⟩ | ⟨noFolder, itself⟩⟩
    · obtain ⟨front, last, stem, extension, entry, rfl, isPython, found, short, tooLong⟩ := selected
      refine ⟨name :: front, last, stem, extension, entry, rfl, isPython, ?_, short, tooLong⟩
      rwa [List.append_assoc, List.singleton_append] at found
    · have isName := tree.isFileName listed
      obtain ⟨rfl, python⟩ := mem_selfIfPython_iff.mp itself
      obtain ⟨stem, extension, isPython⟩ := (isPython_join_iff isName.toIsName).mp python
      obtain ⟨entry, found⟩ := mem_namesIn_iff.mp listed
      obtain ⟨usable, -, -⟩ := resolve_eq_ok_iff.mp resolved
      refine ⟨[], name, stem, extension, entry, rfl, isPython, found,
        (requireUsable_eq_ok_iff.mp usable).2.2, ?_⟩
      rintro rfl
      apply Nat.lt_of_not_le
      intro short
      exact noFolder _ ((resolve_join_eq_ok_iff resolved isName).mpr ⟨short, rfl, found⟩)

/-- With enough steps left, a folder selects everything below it. -/
theorem mem_filesWithin_iff (tree : disk.IsTree)
    (resolved : disk.resolve folder = .ok (location, .folder)) {steps : Nat}
    (enough : longestPath < folder.bytes.length + steps) :
    path ∈ filesWithin disk steps folder ↔ IsSelected disk folder location path := by
  induction steps generalizing folder location with
  | zero =>
      obtain ⟨usable, -, -⟩ := resolve_eq_ok_iff.mp resolved
      obtain ⟨-, -, short⟩ := requireUsable_eq_ok_iff.mp usable
      exact absurd short (Nat.not_le.mpr enough)
  | succ steps ih =>
      have inChild {name : Name} (listed : name ∈ disk.namesIn location) :
          path ∈ filesWithin disk steps (folder.join ⟨name⟩) ↔
            (disk.resolve (folder.join ⟨name⟩) = .ok (location ++ [name], .folder) ∧
              IsSelected disk (folder.join ⟨name⟩) (location ++ [name]) path) ∨
            ((∀ place, disk.resolve (folder.join ⟨name⟩) ≠ .ok (place, .folder)) ∧
              path ∈ selfIfPython (folder.join ⟨name⟩)) := by
        have isName := tree.isFileName listed
        by_cases isFolder : ∃ place, disk.resolve (folder.join ⟨name⟩) = .ok (place, .folder)
        · obtain ⟨place, leads⟩ := isFolder
          obtain ⟨-, rfl, -⟩ := (resolve_join_eq_ok_iff resolved isName).mp leads
          have longer := folder.length_lt_length_join isName.toIsName
          rw [ih leads (by omega)]
          constructor
          · intro selected
            exact .inl ⟨leads, selected⟩
          · rintro (⟨-, selected⟩ | ⟨noFolder, -⟩)
            · exact selected
            · exact absurd leads (noFolder _)
        · have noFolder := not_exists.mp isFolder
          rw [filesWithin_of_not_folder noFolder]
          constructor
          · intro itself
            exact .inr ⟨noFolder, itself⟩
          · rintro (⟨leads, -⟩ | ⟨-, itself⟩)
            · exact absurd leads (noFolder _)
            · exact itself
      rw [filesWithin_of_folder resolved, List.mem_flatMap, isSelected_iff tree resolved]
      constructor
      · rintro ⟨child, inside, member⟩
        obtain ⟨name, listed, rfl⟩ := mem_sortedInside_iff.mp inside
        exact ⟨name, listed, (inChild listed).mp member⟩
      · rintro ⟨name, listed, selected⟩
        exact ⟨_, mem_sortedInside_iff.mpr ⟨name, listed, rfl⟩, (inChild listed).mpr selected⟩

theorem mem_filesAt_iff (tree : disk.IsTree)
    (resolved : disk.resolve folder = .ok (location, .folder)) :
    path ∈ filesAt disk folder ↔ IsSelected disk folder location path :=
  mem_filesWithin_iff tree resolved (Nat.lt_add_left _ (Nat.lt_succ_self longestPath))

/-- The same for a path that is spelled out. -/
theorem joinAll_mem_filesAt_iff (tree : disk.IsTree)
    (resolved : disk.resolve folder = .ok (location, .folder)) {front : Location} {name : Name}
    (areNames : ∀ part ∈ front ++ [name], Path.IsName part) :
    folder.joinAll (front ++ [name]) ∈ filesAt disk folder ↔
      (∃ stem extension, IsPythonName name stem extension) ∧
        (folder.joinAll front).bytes.length ≤ longestPath ∧
        ∃ entry, disk.entry? (location ++ (front ++ [name])) = some entry ∧
          (entry = .folder → longestPath < (folder.joinAll (front ++ [name])).bytes.length) := by
  rw [mem_filesAt_iff tree resolved]
  constructor
  · rintro ⟨before, last, stem, extension, entry, same, isPython, found, short, tooLong⟩
    have alsoNames : ∀ part ∈ before ++ [last], Path.IsName part := by
      intro part member
      have inside := tree.mem_below_iff.mpr ⟨by simp, found⟩
      exact (tree.isFileName_of_mem_below inside member).toIsName
    have same := (Path.joinAll_inj areNames alsoNames).mp same
    obtain ⟨rfl, rfl⟩ := List.append_singleton_inj.mp same
    exact ⟨⟨stem, extension, isPython⟩, short, entry, found, tooLong⟩
  · rintro ⟨⟨stem, extension, isPython⟩, short, entry, found, tooLong⟩
    exact ⟨front, name, stem, extension, entry, rfl, isPython, found, short, tooLong⟩

/-- A folder whose path is too long is taken for a file, and hides what is in it. -/
theorem hides_of_long (tree : disk.IsTree)
    (resolved : disk.resolve folder = .ok (location, .folder)) {name last : Name} {entry : Entry}
    (isPython : ∃ stem extension, IsPythonName name stem extension)
    (found : disk.entry? (location ++ [name, last]) = some entry)
    (long : longestPath < (folder.join ⟨name⟩).bytes.length) :
    folder.joinAll [name] ∈ filesAt disk folder ∧
      folder.joinAll [name, last] ∉ filesAt disk folder := by
  have inside := tree.mem_below_iff.mpr ⟨by simp, found⟩
  have areNames : ∀ part ∈ [name] ++ [last], Path.IsName part := by
    intro part member
    exact (tree.isFileName_of_mem_below inside member).toIsName
  have isFolder : disk.entry? (location ++ [name]) = some .folder := by
    rw [← List.singleton_append, ← List.append_assoc] at found
    exact tree.above found
  obtain ⟨usable, -, -⟩ := resolve_eq_ok_iff.mp resolved
  constructor
  · have isName : ∀ part ∈ [] ++ [name], Path.IsName part := by
      intro part member
      exact areNames part (List.mem_append_left _ member)
    exact (joinAll_mem_filesAt_iff tree resolved isName).mpr
      ⟨isPython, (requireUsable_eq_ok_iff.mp usable).2.2, .folder, isFolder, fun _ => long⟩
  · intro member
    obtain ⟨-, short, -⟩ := (joinAll_mem_filesAt_iff tree resolved areNames).mp member
    exact absurd short (Nat.not_le.mpr long)

end Below

end GoldenCheck.Selection
