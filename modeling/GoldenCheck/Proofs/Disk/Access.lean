import GoldenCheck.Disk.Access
import GoldenCheck.Proofs.Text.Utf8
import Mathlib.Data.List.Forall2

/-!
# Reading and writing files

Writing a file puts it at the location to which its path leads, and changes
nothing else.  No path leads elsewhere afterwards: a walk asks only which
locations are folders, and a file never takes the place of a folder.  So what was
written is read back, and every other file is read as before.
-/

namespace GoldenCheck

/-- A computation with two steps succeeds if both do. -/
theorem bind_eq_ok_iff {ε α β : Type} {first : Except ε α} {next : α → Except ε β} {result : β} :
    (first >>= next) = .ok result ↔ ∃ value, first = .ok value ∧ next value = .ok result := by
  cases first with
  | error fault =>
      constructor
      · intro failed
        exact absurd failed (by simp [bind, Except.bind])
      · rintro ⟨value, failed, -⟩
        contradiction
  | ok value =>
      constructor
      · intro succeeded
        exact ⟨value, rfl, succeeded⟩
      · rintro ⟨_, same, succeeded⟩
        obtain rfl := Except.ok.inj same
        exact succeeded

/-- A computation with two steps fails if one of them does. -/
theorem bind_eq_error_iff {ε α β : Type} {first : Except ε α} {next : α → Except ε β}
    {fault : ε} :
    (first >>= next) = .error fault ↔
      first = .error fault ∨ ∃ value, first = .ok value ∧ next value = .error fault := by
  cases first with
  | error other => simp [bind, Except.bind]
  | ok value => simp [bind, Except.bind]

/-- A computation over a list succeeds if it does at every element. -/
theorem mapM_eq_ok_iff {ε α β : Type} {step : α → Except ε β} {elements : List α}
    {results : List β} :
    elements.mapM step = .ok results ↔
      List.Forall₂ (fun element result => step element = .ok result) elements results := by
  induction elements generalizing results with
  | nil => simp [pure, Except.pure, eq_comm]
  | cons element elements ih =>
      rw [List.mapM_cons, bind_eq_ok_iff, List.forall₂_cons_left_iff]
      simp only [bind_eq_ok_iff, ih, pure, Except.pure, Except.ok.injEq]
      constructor
      · rintro ⟨result, here, others, later, rfl⟩
        exact ⟨result, others, here, later, rfl⟩
      · rintro ⟨result, others, here, later, rfl⟩
        exact ⟨result, here, others, later, rfl⟩

theorem exists_eq_ok_of_mapM {ε α β : Type} {step : α → Except ε β} {elements : List α}
    {results : List β} (mapped : elements.mapM step = .ok results) {element : α}
    (member : element ∈ elements) : ∃ result, step element = .ok result := by
  have related := mapM_eq_ok_iff.mp mapped
  induction related with
  | nil => contradiction
  | cons here later ih =>
      rcases List.mem_cons.mp member with rfl | member
      · exact ⟨_, here⟩
      · exact ih (mapM_eq_ok_iff.mpr later) member

/-- A computation over a list fails at the first element at which it does. -/
theorem mapM_eq_error_iff {ε α β : Type} {step : α → Except ε β} {elements : List α} {fault : ε} :
    elements.mapM step = .error fault ↔
      ∃ front element back results, elements = front ++ element :: back ∧
        List.Forall₂ (fun earlier result => step earlier = .ok result) front results ∧
        step element = .error fault := by
  induction elements with
  | nil => simp [pure, Except.pure]
  | cons first elements ih =>
      rw [List.mapM_cons, bind_eq_error_iff]
      simp only [bind_eq_error_iff, ih]
      constructor
      · rintro (here | ⟨result, here, later | ⟨_, _, ended⟩⟩)
        · exact ⟨[], first, elements, [], rfl, .nil, here⟩
        · obtain ⟨front, element, back, results, rfl, before, failed⟩ := later
          exact ⟨first :: front, element, back, result :: results, rfl, .cons here before, failed⟩
        · contradiction
      · rintro ⟨front, element, back, results, split, before, failed⟩
        cases before with
        | nil =>
            obtain ⟨rfl, -⟩ := List.cons.inj split
            exact .inl failed
        | cons here before =>
            obtain ⟨rfl, rfl⟩ := List.cons.inj split
            exact .inr ⟨_, here, .inl ⟨_, element, back, _, rfl, before, failed⟩⟩

theorem map_eq_ok_iff {ε α β : Type} {first : Except ε α} {change : α → β} {result : β} :
    first.map change = .ok result ↔ ∃ value, first = .ok value ∧ change value = result := by
  cases first <;> simp [Except.map]

namespace Disk

/-! ## Putting an entry -/

theorem lookup_map_replace {rows : List (Location × Entry)} {location other : Location}
    {entry : Entry} :
    (rows.map fun row => if row.1 = location then (location, entry) else row).lookup other =
      if other = location then (rows.lookup location).map fun _ => entry
      else rows.lookup other := by
  induction rows with
  | nil => simp
  | cons row rows ih =>
      obtain ⟨place, held⟩ := row
      rw [List.map_cons, List.lookup_cons, List.lookup_cons, List.lookup_cons, ih]
      by_cases atPlace : place = location
      · subst atPlace
        by_cases same : other = place
        · simp [same]
        · simp [same, beq_eq_false_iff_ne.mpr same]
      · by_cases same : other = location
        · subst same
          simp [atPlace, beq_eq_false_iff_ne.mpr (Ne.symm atPlace)]
        · simp [atPlace, same]

/-- What stands below the root is what the table says. -/
theorem entry?_of_ne_nil {disk : Disk} {location : Location} (below : location ≠ []) :
    disk.entry? location = disk.entries.lookup location := by
  have below : ¬location.isEmpty = true := by simpa using below
  exact if_neg below

/-- Putting an entry changes what stands at its location and nothing else. -/
theorem entry?_put {disk : Disk} {location : Location} {entry : Entry} (notRoot : location ≠ [])
    (other : Location) :
    Disk.entry? (disk.put location entry) other =
      if other = location then some entry else disk.entry? other := by
  by_cases root : other = []
  · rw [root, if_neg notRoot.symm]
    rfl
  · rw [entry?_of_ne_nil root, entry?_of_ne_nil root, put]
    split
    · rename_i present
      dsimp only
      rw [lookup_map_replace]
      split
      · obtain ⟨held, found⟩ := Option.isSome_iff_exists.mp present
        rw [found, Option.map_some]
      · rfl
    · rename_i absent
      have nothing := Option.not_isSome_iff_eq_none.mp absent
      dsimp only
      rw [List.lookup_append, List.lookup_cons, List.lookup_nil]
      by_cases same : other = location
      · rw [if_pos same, same, nothing, beq_self_eq_true]
        rfl
      · rw [if_neg same, beq_eq_false_iff_ne.mpr same, Option.or_none]

@[simp]
theorem current_put (disk : Disk) (location : Location) (entry : Entry) :
    (disk.put location entry).current = disk.current :=
  rfl

/-! ## Walking -/

theorem requireFolder_eq_ok_iff {disk : Disk} {location : Location} :
    disk.requireFolder location = .ok () ↔ disk.entry? location = some .folder := by
  rw [requireFolder]
  split <;> simp_all

/-- A walk along an idle part stays where it is. -/
theorem walk_idle {disk : Disk} {start : Location} {part : Bytes} {parts : List Bytes}
    (folder : disk.entry? start = some .folder) (idle : Path.isIdle part = true) :
    disk.walk start (part :: parts) = disk.walk start parts := by
  rw [walk, requireFolder_eq_ok_iff.mpr folder, if_pos idle]
  rfl

/-- A walk along a name goes one step down. -/
theorem walk_name {disk : Disk} {start : Location} {part : Bytes} {parts : List Bytes}
    (folder : disk.entry? start = some .folder) (active : Path.isIdle part = false)
    (down : part ≠ upPart) (short : requireName part = .ok ()) :
    disk.walk start (part :: parts) = disk.walk (start ++ [part]) parts := by
  have active : ¬Path.isIdle part = true := by simp [active]
  rw [walk, requireFolder_eq_ok_iff.mpr folder, if_neg active, if_neg down, short]
  rfl

/-- A walk along two stretches is one walk after the other. -/
theorem walk_append (disk : Disk) (start : Location) (first second : List Bytes) :
    disk.walk start (first ++ second) =
      disk.walk start first >>= fun middle => disk.walk middle second := by
  induction first generalizing start with
  | nil => rfl
  | cons part first ih =>
      rw [List.cons_append, walk, walk]
      cases disk.requireFolder start with
      | error fault => rfl
      | ok folder =>
          simp only [ih, bind, Except.bind]
          split
          · rfl
          · split
            · rfl
            · cases requireName part <;> rfl

/-- Where every folder stays a folder, every walk still leads to where it led. -/
theorem walk_of_folders {disk after : Disk} {start target : Location} {parts : List Bytes}
    (kept : ∀ location, disk.entry? location = some .folder →
      after.entry? location = some .folder)
    (walked : disk.walk start parts = .ok target) : after.walk start parts = .ok target := by
  induction parts generalizing start with
  | nil => exact walked
  | cons part parts ih =>
      rw [walk] at walked ⊢
      obtain ⟨_, folder, walked⟩ := bind_eq_ok_iff.mp walked
      rw [requireFolder_eq_ok_iff] at folder
      rw [requireFolder_eq_ok_iff.mpr (kept _ folder)]
      change (if _ then _ else _) = _
      split
      · rename_i idle
        rw [if_pos idle] at walked
        exact ih walked
      · rename_i active
        rw [if_neg active] at walked
        split
        · rename_i up
          rw [if_pos up] at walked
          exact ih walked
        · rename_i down
          rw [if_neg down] at walked
          obtain ⟨_, short, walked⟩ := bind_eq_ok_iff.mp walked
          rw [short]
          exact ih walked

/-- The folders on the way to a folder. -/
theorem entry?_of_walk {disk : Disk} {start target : Location} {parts : List Bytes}
    (walked : disk.walk start parts = .ok target) (folder : disk.entry? target = some .folder) :
    disk.entry? start = some .folder := by
  cases parts with
  | nil =>
      obtain rfl := Except.ok.inj walked
      exact folder
  | cons part parts =>
      obtain ⟨_, isFolder, -⟩ := bind_eq_ok_iff.mp walked
      exact requireFolder_eq_ok_iff.mp isFolder

/-! ## Reading -/

/-- A path leads to an entry if the walk along its parts ends there. -/
theorem resolve_eq_ok_iff {disk : Disk} {path : Path} {location : Location} {entry : Entry} :
    disk.resolve path = .ok (location, entry) ↔
      requireUsable path = .ok () ∧
        disk.walk (disk.startOf path) (Text.pieces Path.slash path.bytes) = .ok location ∧
        disk.entry? location = some entry := by
  constructor
  · intro resolved
    obtain ⟨_, usable, resolved⟩ := bind_eq_ok_iff.mp resolved
    obtain ⟨place, walked, resolved⟩ := bind_eq_ok_iff.mp resolved
    split at resolved
    · rename_i held found
      obtain ⟨rfl, rfl⟩ := Prod.mk.inj (Except.ok.inj resolved)
      exact ⟨usable, walked, found⟩
    · contradiction
  · rintro ⟨usable, walked, found⟩
    refine bind_eq_ok_iff.mpr ⟨_, usable, bind_eq_ok_iff.mpr ⟨_, walked, ?_⟩⟩
    rw [found]

/-- A path whose walk ends where nothing stands leads to nothing. -/
theorem resolve_eq_notFound {disk : Disk} {path : Path} {location : Location}
    (usable : requireUsable path = .ok ())
    (walked : disk.walk (disk.startOf path) (Text.pieces Path.slash path.bytes) = .ok location)
    (vacant : disk.entry? location = none) : disk.resolve path = .error .notFound := by
  simp only [resolve, usable, walked, bind, Except.bind, vacant]

theorem isFolder_of_resolve {disk : Disk} {path : Path} {location : Location}
    (resolved : disk.resolve path = .ok (location, .folder)) : disk.isFolder path = true := by
  simp only [isFolder, find?, resolved]
  rfl

theorem holds_of_resolve {disk : Disk} {path : Path} {location : Location} {entry : Entry}
    (resolved : disk.resolve path = .ok (location, entry)) : disk.holds path = true := by
  simp only [holds, find?, resolved]
  rfl

theorem read_eq_ok_iff {disk : Disk} {path : Path} {contents : Bytes} :
    disk.read path = .ok contents ↔
      ∃ location, disk.resolve path = .ok (location, .file contents) := by
  constructor
  · intro read
    obtain ⟨⟨location, entry⟩, resolved, read⟩ := bind_eq_ok_iff.mp read
    cases entry with
    | folder => contradiction
    | file held =>
        obtain rfl := Except.ok.inj read
        exact ⟨location, resolved⟩
  · rintro ⟨location, resolved⟩
    exact bind_eq_ok_iff.mpr ⟨_, resolved, rfl⟩

/-- A path leads to a file exactly if it can be read. -/
theorem isFile_iff {disk : Disk} {path : Path} :
    disk.isFile path = true ↔ ∃ contents, disk.read path = .ok contents := by
  simp only [read_eq_ok_iff, isFile, find?]
  cases disk.resolve path with
  | error fault => simp
  | ok found =>
      obtain ⟨location, entry⟩ := found
      cases entry <;> simp [Entry.isFolder]

/-- A path leads to a file that holds a text in UTF-8. -/
def HoldsText (disk : Disk) (path : Path) (text : Text) : Prop :=
  disk.read path = .ok (Text.encode text)

theorem HoldsText.unique {disk : Disk} {path : Path} {first second : Text}
    (holdsFirst : disk.HoldsText path first) (holdsSecond : disk.HoldsText path second) :
    first = second :=
  Text.encode_injective (Except.ok.inj (holdsFirst.symm.trans holdsSecond))

theorem HoldsText.isFile {disk : Disk} {path : Path} {text : Text}
    (holds : disk.HoldsText path text) : disk.isFile path = true :=
  isFile_iff.mpr ⟨_, holds⟩

/-- A file is read as the text that it holds. -/
theorem readText_eq_ok_iff {disk : Disk} {path : Path} {text : Text} :
    disk.readText path = .ok text ↔ disk.HoldsText path text := by
  constructor
  · intro read
    obtain ⟨contents, held, read⟩ := bind_eq_ok_iff.mp read
    split at read
    · rename_i decoded found
      obtain rfl := Except.ok.inj read
      rw [HoldsText, held, Text.decode?_eq_some_iff.mp found]
    · contradiction
  · intro held
    refine bind_eq_ok_iff.mpr ⟨_, held, ?_⟩
    rw [Text.decode?_encode]

theorem readText_eq_error {disk : Disk} {path : Path}
    (unreadable : ¬∃ text, disk.HoldsText path text) :
    ∃ cause, disk.readText path = .error cause := by
  cases read : disk.readText path with
  | error cause => exact ⟨cause, rfl⟩
  | ok text => exact absurd ⟨text, readText_eq_ok_iff.mp read⟩ unreadable

/-! ## Writing -/

/-- A file is written where the walk along its path ends, and never over a
folder. -/
theorem writeTarget_eq_ok {disk : Disk} {path : Path} {location : Location}
    (target : disk.writeTarget path = .ok location) :
    requireUsable path = .ok () ∧
      disk.walk (disk.startOf path) (Text.pieces Path.slash path.bytes) = .ok location ∧
      location ≠ [] ∧ disk.entry? location ≠ some .folder := by
  obtain ⟨_, usable, target⟩ := bind_eq_ok_iff.mp target
  refine ⟨usable, ?_⟩
  generalize shape : (Text.pieces Path.slash path.bytes).reverse = parts at target
  dsimp only at target
  split at target
  · contradiction
  · rename_i last before trimmed
    obtain ⟨folder, walked, target⟩ := bind_eq_ok_iff.mp target
    obtain ⟨_, isFolder, target⟩ := bind_eq_ok_iff.mp target
    split at target
    · contradiction
    · rename_i named
      rw [not_or, not_or] at named
      obtain ⟨notDot, notUp, closed⟩ := named
      obtain ⟨_, short, target⟩ := bind_eq_ok_iff.mp target
      -- No slash ends the path, so `last` is its last part.
      have untrimmed : parts = last :: before := by
        cases parts with
        | nil => contradiction
        | cons part parts =>
            have filled : ¬part.isEmpty = true := by simpa using closed
            rwa [List.dropWhile_cons_of_neg filled] at trimmed
      have filled : last ≠ [] := by
        rintro rfl
        exact closed (by rw [untrimmed]; rfl)
      have pieces : Text.pieces Path.slash path.bytes = before.reverse ++ [last] := by
        rw [← List.reverse_reverse (Text.pieces _ _), shape, untrimmed, List.reverse_cons]
      have active : Path.isIdle last = false := by simp [Path.isIdle, filled, notDot]
      have arrived : disk.walk (disk.startOf path) (Text.pieces Path.slash path.bytes) =
          .ok (folder ++ [last]) := by
        rw [pieces, walk_append, walked]
        exact walk_name (requireFolder_eq_ok_iff.mp isFolder) active notUp short
      split at target
      · contradiction
      · rename_i notFolder
        obtain rfl := Except.ok.inj target
        exact ⟨arrived, by simp, notFolder⟩

/-- What a successful write did. -/
theorem write_eq_ok {disk after : Disk} {path : Path} {contents : Bytes}
    (written : disk.write path contents = .ok after) :
    ∃ location, disk.writeTarget path = .ok location ∧
      after = disk.put location (.file contents) := by
  obtain ⟨location, target, written⟩ := bind_eq_ok_iff.mp written
  exact ⟨location, target, (Except.ok.inj written).symm⟩

/-- A path that can be written leads to a file, or to nothing yet. -/
theorem read_of_writeTarget {disk : Disk} {path : Path} {location : Location}
    (target : disk.writeTarget path = .ok location) :
    disk.isFile path = true ∨ disk.resolve path = .error .notFound := by
  obtain ⟨usable, walked, -, notFolder⟩ := writeTarget_eq_ok target
  cases found : disk.entry? location with
  | none => exact .inr (resolve_eq_notFound usable walked found)
  | some entry =>
      cases entry with
      | folder => contradiction
      | file contents =>
          have resolved := resolve_eq_ok_iff.mpr ⟨usable, walked, found⟩
          exact .inl (isFile_iff.mpr ⟨contents, read_eq_ok_iff.mpr ⟨location, resolved⟩⟩)

/-- Every walk leads to the same place after a write. -/
theorem walk_of_writeTarget {disk : Disk} {path : Path} {location start place : Location}
    {entry : Entry} {parts : List Bytes} (target : disk.writeTarget path = .ok location)
    (walked : disk.walk start parts = .ok place) :
    (disk.put location entry).walk start parts = .ok place := by
  obtain ⟨-, -, notRoot, notFolder⟩ := writeTarget_eq_ok target
  apply walk_of_folders _ walked
  intro other folder
  have elsewhere : other ≠ location := by
    rintro rfl
    exact notFolder folder
  rw [entry?_put notRoot, if_neg elsewhere, folder]

/-- What has been written is read back. -/
theorem read_of_write {disk after : Disk} {path : Path} {contents : Bytes}
    (written : disk.write path contents = .ok after) : after.read path = .ok contents := by
  obtain ⟨location, target, rfl⟩ := write_eq_ok written
  obtain ⟨usable, walked, notRoot, -⟩ := writeTarget_eq_ok target
  refine read_eq_ok_iff.mpr ⟨location, resolve_eq_ok_iff.mpr ⟨usable, ?_, ?_⟩⟩
  · exact walk_of_writeTarget target walked
  · rw [entry?_put notRoot, if_pos rfl]

/-- A file that was there before a write holds what it held, or else what was
written. -/
theorem read_of_write_of_read {disk after : Disk} {path other : Path} {contents held : Bytes}
    (written : disk.write path contents = .ok after) (read : disk.read other = .ok held) :
    after.read other = .ok held ∨ after.read other = .ok contents := by
  obtain ⟨location, target, rfl⟩ := write_eq_ok written
  obtain ⟨-, -, notRoot, -⟩ := writeTarget_eq_ok target
  obtain ⟨place, resolved⟩ := read_eq_ok_iff.mp read
  obtain ⟨usable, walked, found⟩ := resolve_eq_ok_iff.mp resolved
  have arrived := @walk_of_writeTarget _ _ _ _ _ (.file contents) _ target walked
  by_cases same : place = location
  · refine .inr (read_eq_ok_iff.mpr ⟨place, resolve_eq_ok_iff.mpr ⟨usable, arrived, ?_⟩⟩)
    rw [entry?_put notRoot, if_pos same]
  · refine .inl (read_eq_ok_iff.mpr ⟨place, resolve_eq_ok_iff.mpr ⟨usable, arrived, ?_⟩⟩)
    rw [entry?_put notRoot, if_neg same, found]

end Disk

end GoldenCheck
