import GoldenCheck.Proofs.Disk.Tree
import GoldenCheck.Proofs.Glob.Follow

/-!
# Reading folders

A component with wildcards reads the folder to which the expansion has come.  That
folder was found by its path, or in the listing of the folder above.  What was found in a
listing may have a path that is too long, and then it cannot be read.  In a file tree
nothing else stops an expansion.
-/

namespace GoldenCheck.Glob

open Disk

/-- A folder is not read because its path is too long. -/
structure ReadError.IsTooLong (error : ReadError) : Prop where
  long : longestPath < error.path.bytes.length
  cause : error.cause = .tooLong

/-! ## The way to a folder -/

theorem resolve_of_long {disk : Disk} {path : Path} (noZero : 0 ∉ path.bytes)
    (long : longestPath < path.bytes.length) : disk.resolve path = .error .tooLong := by
  have written : ¬path.bytes.isEmpty = true := by
    intro empty
    rw [List.isEmpty_iff.mp empty] at long
    contradiction
  have unusable : requireUsable path = .error .tooLong := by
    rw [requireUsable, if_neg (by simpa using noZero), if_neg written, if_pos long]
  rw [resolve, unusable]
  rfl

/-- A path that says no more than `.` leads to the current folder. -/
theorem location_of_same_here {disk : Disk} {path : Path} {location : Location} {entry : Entry}
    (same : path.same here = true) (resolved : disk.resolve path = .ok (location, entry)) :
    location = disk.current := by
  have start := splitStart_of_same_here same
  have idle : Path.partComponents path.bytes = [] := by
    have components : path.components = [.here] := beq_iff_eq.mp same
    rw [Path.components_eq, start] at components
    exact List.cons.inj components |>.2
  have relative : disk.startOf path = disk.current := by
    refine if_neg fun absolute => ?_
    obtain ⟨bytes⟩ := path
    obtain ⟨rest, rfl⟩ := List.head?_eq_some_iff.mp (beq_iff_eq.mp absolute)
    simp [Path.splitStart, Path.slash, Path.dot] at start
  obtain ⟨-, walked, -⟩ := resolve_eq_ok_iff.mp resolved
  rw [relative] at walked
  rw [Path.partComponents, List.filterMap_eq_nil_iff] at idle
  generalize Text.pieces Path.slash path.bytes = parts at walked idle
  induction parts with
  | nil => exact (Except.ok.inj walked).symm
  | cons part parts ih =>
      obtain ⟨here, idle⟩ := List.forall_mem_cons.mp idle
      obtain ⟨_, folder, -⟩ := bind_eq_ok_iff.mp walked
      have isIdle : Path.isIdle part = true := by
        by_contra active
        rw [Path.partComponent?, if_neg active] at here
        split at here <;> contradiction
      rw [walk_idle (requireFolder_eq_ok_iff.mp folder) isIdle] at walked
      exact ih walked idle

/-- A path that leads to the folder at a location, unless it is too long. -/
def LeadsTo (disk : Disk) (path : Path) (location : Location) : Prop :=
  disk.resolve path = .ok (location, .folder) ∨
    (0 ∉ path.bytes ∧ longestPath < path.bytes.length ∧ ¬path.same here = true)

section Way

variable {disk : Disk} {path : Path} {location : Location}

/-- One step down from a folder. -/
theorem LeadsTo.stepDown (tree : disk.WellFormed) (leads : LeadsTo disk path location)
    {name : Name} (found : disk.entry? (location ++ [name]) = some .folder) :
    LeadsTo disk (Glob.stepDown path ⟨name⟩) (location ++ [name]) := by
  have isName : IsFileName name := tree.isFileName (mem_namesIn_iff.mpr ⟨_, found⟩)
  have below (noZero : 0 ∉ path.bytes) (long : longestPath < (path.join ⟨name⟩).bytes.length) :
      LeadsTo disk (path.join ⟨name⟩) (location ++ [name]) := by
    refine .inr ⟨Path.not_mem_bytes_join (by decide) noZero isName.noZero, long, ?_⟩
    intro same
    have components : (path.join ⟨name⟩).components = [.here] := beq_iff_eq.mp same
    rw [Path.components_join _ isName.toIsName] at components
    cases start : path.components <;> simp [start] at components
  rcases leads with resolved | ⟨noZero, long, elsewhere⟩
  · obtain ⟨usable, -, isFolder⟩ := resolve_eq_ok_iff.mp resolved
    by_cases same : path.same here = true
    · have alone : Glob.stepDown path ⟨name⟩ = ⟨name⟩ := if_pos same
      obtain rfl := location_of_same_here same resolved
      have short : name.length ≤ longestPath := isName.short.trans (by decide)
      rw [alone]
      exact .inl ((resolve_name_eq_ok_iff isName).mpr ⟨short, isFolder, rfl, found⟩)
    · have joined : Glob.stepDown path ⟨name⟩ = path.join ⟨name⟩ := if_neg same
      rw [joined]
      by_cases short : (path.join ⟨name⟩).bytes.length ≤ longestPath
      · exact .inl ((resolve_join_eq_ok_iff resolved isName).mpr ⟨short, rfl, found⟩)
      · exact below (requireUsable_eq_ok_iff.mp usable).1 (Nat.lt_of_not_le short)
  · have joined : Glob.stepDown path ⟨name⟩ = path.join ⟨name⟩ := if_neg elsewhere
    rw [joined]
    exact below noZero (long.trans_le (path.length_le_length_join isName.closed))

/-- The way down from a folder to a folder below it. -/
theorem LeadsTo.placeBelow (tree : disk.IsTree) (leads : LeadsTo disk path location)
    {below : Location} (found : disk.entry? (location ++ below) = some .folder) :
    LeadsTo disk (Glob.placeBelow path below .folder).path (location ++ below) := by
  induction below generalizing path location with
  | nil =>
      rw [List.append_nil]
      exact leads
  | cons name below ih =>
      rw [← List.singleton_append, ← List.append_assoc] at found ⊢
      have isFolder : disk.entry? (location ++ [name]) = some .folder := by
        by_cases last : below = []
        · rwa [last, List.append_nil] at found
        · exact tree.above_append last found
      exact ih (leads.stepDown tree.toWellFormed isFolder) found

theorem openFolder_eq_ok_iff :
    openFolder disk path = .ok location ↔ ∃ entry, disk.resolve path = .ok (location, entry) := by
  rw [openFolder]
  split
  · rename_i resolved
    simp [resolved]
  · rename_i failed
    simp [failed]

theorem LeadsTo.isTooLong (leads : LeadsTo disk path location) {error : ReadError}
    (failed : openFolder disk path = .error error) : error.IsTooLong := by
  rcases leads with resolved | ⟨noZero, long, -⟩
  · rw [openFolder_eq_ok_iff.mpr ⟨_, resolved⟩] at failed
    contradiction
  · rw [openFolder, resolve_of_long noZero long] at failed
    obtain rfl := Except.error.inj failed
    exact ⟨long, rfl⟩

theorem LeadsTo.of_openFolder {opened : Location} (leads : LeadsTo disk path location)
    (isOpened : openFolder disk path = .ok opened) : LeadsTo disk path opened := by
  obtain ⟨entry, resolved⟩ := openFolder_eq_ok_iff.mp isOpened
  rcases leads with toFolder | ⟨noZero, long, -⟩
  · obtain ⟨-, rfl⟩ := Prod.mk.inj (Except.ok.inj (toFolder.symm.trans resolved))
    exact .inl resolved
  · rw [resolve_of_long noZero long] at resolved
    contradiction

end Way

/-! ## Places -/

/-- What counts as a folder in an expansion is one, though its path may be too long. -/
def Place.IsSound (disk : Disk) (place : Place) : Prop :=
  place.isFolder = true → ∃ location, LeadsTo disk place.path location

section Places

variable {disk : Disk} {path : Path} {location : Location}

theorem isSound_ofPath (disk : Disk) (path : Path) : (Place.ofPath disk path).IsSound disk := by
  intro isFolder
  change disk.isFolder path = true at isFolder
  rw [Disk.isFolder, find?] at isFolder
  cases resolved : disk.resolve path with
  | error fault => simp [resolved] at isFolder
  | ok found =>
      obtain ⟨location, entry⟩ := found
      cases entry with
      | folder => exact ⟨location, .inl resolved⟩
      | file contents => simp [resolved, Entry.isFolder] at isFolder

theorem LeadsTo.isSound_placeIn (tree : disk.WellFormed) (leads : LeadsTo disk path location)
    (name : Name) : (placeIn disk path location name).IsSound disk := by
  intro isFolder
  change (disk.entry? (location ++ [name])).any _ = true at isFolder
  cases found : disk.entry? (location ++ [name]) with
  | none => simp [found] at isFolder
  | some entry =>
      cases entry with
      | folder => exact ⟨_, leads.stepDown tree found⟩
      | file contents => simp [found, Entry.isFolder] at isFolder

theorem LeadsTo.isSound_placeBelow (tree : disk.IsTree) (leads : LeadsTo disk path location)
    {below : Location} {entry : Entry} (inside : (below, entry) ∈ disk.below location) :
    (Glob.placeBelow path below entry).IsSound disk := by
  intro isFolder
  cases entry with
  | folder => exact ⟨_, leads.placeBelow tree (tree.mem_below_iff.mp inside).2⟩
  | file contents => contradiction

theorem Place.IsSound.isTooLong_of_thenRead {place : Place} (sound : place.IsSound disk)
    {found : List Path} {error : ReadError} (failed : thenRead disk place found = .error error) :
    error.IsTooLong := by
  rw [thenRead] at failed
  split at failed
  · rename_i isFolder
    obtain ⟨location, leads⟩ := sound isFolder
    cases opened : openFolder disk place.path with
    | error fault =>
        rw [opened] at failed
        obtain rfl := Except.error.inj failed
        exact leads.isTooLong opened
    | ok location =>
        rw [opened] at failed
        contradiction
  · contradiction

end Places

/-! ## The expansion -/

/-- An expansion fails only at a folder whose path is too long. -/
theorem isTooLong_of_expand {disk : Disk} (tree : disk.IsTree) {foldersOnly : Bool}
    {error : ReadError} (components : List (List Token)) {place : Place}
    (sound : place.IsSound disk)
    (failed : expand disk foldersOnly components place = .error error) : error.IsTooLong := by
  match components with
  | [] => contradiction
  | component :: rest =>
      rw [expand] at failed
      split at failed
      · rcases ite_eq_iff.mp failed with ⟨_, failed⟩ | ⟨_, ended⟩
        · exact isTooLong_of_expand tree rest (isSound_ofPath disk _) failed
        · contradiction
      · split at failed
        · contradiction
        · rename_i isFolder
          obtain ⟨location, leads⟩ := sound (by simpa using isFolder)
          rcases bind_eq_error_iff.mp failed with unread | ⟨opened, isOpened, failed⟩
          · exact leads.isTooLong unread
          · have leads := leads.of_openFolder isOpened
            split at failed
            · -- `**` goes through everything below, and matches what comes after it there.
              rcases bind_eq_error_iff.mp failed with failed | ⟨_, _, ended⟩
              · obtain ⟨front, ⟨below, entry⟩, back, _, shape, _, failed⟩ :=
                  mapM_eq_error_iff.mp failed
                have inside : (below, entry) ∈ disk.below opened := by simp [shape]
                have childSound := leads.isSound_placeBelow tree inside
                rcases bind_eq_error_iff.mp failed with failed | ⟨found, _, failed⟩
                · cases rest with
                  | nil => contradiction
                  | cons next after =>
                      dsimp only at failed
                      split at failed
                      · exact isTooLong_of_expand tree after childSound failed
                      · contradiction
                · exact childSound.isTooLong_of_thenRead failed
              · contradiction
            · rcases bind_eq_error_iff.mp failed with failed | ⟨_, _, failed⟩
              · obtain ⟨_, step, _, _, _, _, failed⟩ := mapM_eq_error_iff.mp failed
                exact isTooLong_of_expand tree rest (isSound_ofPath disk _) failed
              · rcases bind_eq_error_iff.mp failed with failed | ⟨_, _, ended⟩
                · obtain ⟨_, name, _, _, _, _, failed⟩ := mapM_eq_error_iff.mp failed
                  dsimp only at failed
                  split at failed
                  · exact isTooLong_of_expand tree rest
                      (leads.isSound_placeIn tree.toWellFormed name) failed
                  · contradiction
                · contradiction

/-- `**` reads every folder below, so it fails if the path of one of them is too long. -/
theorem exists_expand_eq_error {disk : Disk} {path : Path} {location below : Location}
    (resolved : disk.resolve path = .ok (location, .folder))
    (inside : (below, .folder) ∈ disk.below location)
    (long : longestPath < (placeBelow path below .folder).path.bytes.length)
    (foldersOnly : Bool) (rest : List (List Token)) :
    ∃ error, expand disk foldersOnly ([.anyFolders] :: rest) (.ofPath disk path) =
      .error error := by
  cases expanded : expand disk foldersOnly ([.anyFolders] :: rest) (.ofPath disk path) with
  | error error => exact ⟨error, rfl⟩
  | ok paths =>
      have isFolder : ¬(!(Place.ofPath disk path).isFolder) = true := by
        simp [Place.ofPath, isFolder_of_resolve resolved]
      have unspelled : literal? [.anyFolders] = none := rfl
      rw [expand, unspelled] at expanded
      dsimp only at expanded
      rw [if_neg isFolder] at expanded
      obtain ⟨opened, isOpened, expanded⟩ := bind_eq_ok_iff.mp expanded
      obtain ⟨_, toOpened⟩ := openFolder_eq_ok_iff.mp isOpened
      obtain ⟨rfl, -⟩ := Prod.mk.inj (Except.ok.inj (resolved.symm.trans toOpened))
      rw [if_pos rfl] at expanded
      obtain ⟨_, mapped, -⟩ := bind_eq_ok_iff.mp expanded
      obtain ⟨_, matched⟩ := exists_eq_ok_of_mapM mapped inside
      obtain ⟨_, -, isRead⟩ := bind_eq_ok_iff.mp matched
      change (openFolder disk (placeBelow path below .folder).path).map _ = _ at isRead
      obtain ⟨place, isOpened, -⟩ := map_eq_ok_iff.mp isRead
      obtain ⟨_, resolved⟩ := openFolder_eq_ok_iff.mp isOpened
      obtain ⟨usable, -, -⟩ := resolve_eq_ok_iff.mp resolved
      exact absurd (requireUsable_eq_ok_iff.mp usable).2.2 (Nat.not_le.mpr long)

/-- A pattern that cannot be expanded comes to a folder whose path is too long. -/
theorem isTooLong_of_paths {disk : Disk} (tree : disk.IsTree) {plan : Plan} {error : ReadError}
    (failed : paths disk plan = .error error) : error.IsTooLong :=
  isTooLong_of_expand tree plan.components (isSound_ofPath disk plan.start) failed

end GoldenCheck.Glob
