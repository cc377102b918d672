import GoldenCheck.Proofs.Disk.Listing
import Mathlib.Data.List.Induction

/-!
# Everything below a folder

In a file tree the folder above every row is there too.  So what stands below a
folder is reached by going down from it name by name, as long as the path stays short
enough to be followed.
-/

namespace GoldenCheck.Disk

/-- The table of a file tree with nothing left out: what stands anywhere stands in a
folder. -/
@[mk_iff]
structure IsTree (disk : Disk) : Prop extends WellFormed disk where
  closed : ∀ row ∈ disk.entries, disk.entry? row.1.dropLast = some .folder

instance (disk : Disk) : Decidable disk.IsTree :=
  decidable_of_iff' _ (isTree_iff disk)

/-- The row of something below a folder, with its location relative to the folder. -/
def rowBelow? (location : Location) (row : Location × Entry) : Option (Location × Entry) :=
  match location.isPrefixOf? row.1 with
  | some (name :: rest) => some (name :: rest, row.2)
  | _ => none

theorem rowBelow?_eq_some_iff {location below : Location} {row : Location × Entry}
    {entry : Entry} :
    rowBelow? location row = some (below, entry) ↔
      below ≠ [] ∧ row = (location ++ below, entry) := by
  obtain ⟨other, held⟩ := row
  rw [rowBelow?]
  constructor
  · intro found
    split at found
    · rename_i name rest cut
      obtain ⟨rfl, rfl⟩ := Prod.mk.inj (Option.some.inj found)
      rw [List.isPrefixOf?_eq_some_iff_append_eq] at cut
      exact ⟨by simp, Prod.ext cut.symm rfl⟩
    · contradiction
  · rintro ⟨nonempty, same⟩
    obtain ⟨rfl, rfl⟩ := Prod.mk.inj same
    have cut : location.isPrefixOf? (location ++ below) = some below :=
      List.isPrefixOf?_eq_some_iff_append_eq.mpr rfl
    obtain ⟨name, rest, rfl⟩ := List.exists_cons_of_ne_nil nonempty
    simp only [cut]

theorem perm_below (disk : Disk) (location : Location) :
    (disk.below location).Perm (disk.entries.filterMap (rowBelow? location)) :=
  List.mergeSort_perm _ _

section Tree

variable {disk : Disk} {location below : Location} {entry : Entry}

theorem WellFormed.mem_below_iff (tree : disk.WellFormed) :
    (below, entry) ∈ disk.below location ↔
      below ≠ [] ∧ disk.entry? (location ++ below) = some entry := by
  rw [(perm_below disk location).mem_iff, List.mem_filterMap]
  simp only [rowBelow?_eq_some_iff]
  constructor
  · rintro ⟨row, member, nonempty, rfl⟩
    exact ⟨nonempty, (tree.entry?_eq_some_iff (by simp [nonempty])).mpr member⟩
  · rintro ⟨nonempty, found⟩
    exact ⟨_, (tree.entry?_eq_some_iff (by simp [nonempty])).mp found, nonempty, rfl⟩

/-- All names on the way down from a folder are proper. -/
theorem WellFormed.isFileName_of_mem_below (tree : disk.WellFormed)
    (found : (below, entry) ∈ disk.below location) {name : Name} (member : name ∈ below) :
    IsFileName name := by
  rw [(perm_below disk location).mem_iff, List.mem_filterMap] at found
  obtain ⟨row, listed, relative⟩ := found
  obtain ⟨-, rfl⟩ := rowBelow?_eq_some_iff.mp relative
  exact tree.named _ listed name (List.mem_append_right location member)

/-- The folder above something is there. -/
theorem IsTree.above (tree : disk.IsTree) {name : Name}
    (found : disk.entry? (location ++ [name]) = some entry) :
    disk.entry? location = some .folder := by
  have member := (tree.entry?_eq_some_iff (by simp)).mp found
  simpa using tree.closed _ member

/-- Every folder on the way down to something is there. -/
theorem IsTree.above_append (tree : disk.IsTree) {rest : Location} (nonempty : rest ≠ [])
    (found : disk.entry? (location ++ rest) = some entry) :
    disk.entry? location = some .folder := by
  induction rest using List.reverseRecOn generalizing entry with
  | nil => contradiction
  | append_singleton front name ih =>
      rw [← List.append_assoc] at found
      have parent := tree.above found
      by_cases direct : front = []
      · rwa [direct, List.append_nil] at parent
      · exact ih direct parent

/-- Going down from a folder name by name leads to what stands there, unless the path
gets too long. -/
theorem IsTree.resolve_joinAll (tree : disk.IsTree) {folder : Path}
    (resolved : disk.resolve folder = .ok (location, .folder))
    (found : disk.entry? (location ++ below) = some entry)
    (short : (folder.joinAll below).bytes.length ≤ longestPath) :
    disk.resolve (folder.joinAll below) = .ok (location ++ below, entry) := by
  induction below using List.reverseRecOn generalizing entry with
  | nil =>
      rw [List.append_nil] at found ⊢
      obtain ⟨-, -, isFolder⟩ := resolve_eq_ok_iff.mp resolved
      obtain rfl := Option.some.inj (isFolder.symm.trans found)
      exact resolved
  | append_singleton front name ih =>
      rw [← List.append_assoc] at found ⊢
      rw [Path.joinAll_append_singleton] at short ⊢
      have isName := tree.isFileName (mem_namesIn_iff.mpr ⟨entry, found⟩)
      have shorter := Path.length_le_length_join (folder.joinAll front) isName.closed
      have parent := ih (tree.above found) (shorter.trans short)
      exact (resolve_join_eq_ok_iff parent isName).mpr ⟨short, rfl, found⟩

end Tree

end GoldenCheck.Disk
