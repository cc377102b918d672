import GoldenCheck.Proofs.Disk.Access
import GoldenCheck.Proofs.Disk.Path

/-!
# Listing folders

A folder lists what stands directly inside it, each by the path of the folder
joined with a name.  Such a path leads to what it names, unless it has become too
long to be followed.
-/

namespace GoldenCheck.Disk

/-- A name that something on a disk can have. -/
@[mk_iff]
structure IsFileName (name : Name) : Prop extends Path.IsName name where
  noZero : 0 ∉ name
  short : name.length ≤ longestName

instance (name : Name) : Decidable (IsFileName name) :=
  decidable_of_iff' _ (isFileName_iff name)

/-- The table of a file tree: proper names, and one row for each location. -/
@[mk_iff]
structure WellFormed (disk : Disk) : Prop where
  named : ∀ row ∈ disk.entries, ∀ name ∈ row.1, IsFileName name
  distinct : (disk.entries.map Prod.fst).Nodup

instance (disk : Disk) : Decidable disk.WellFormed :=
  decidable_of_iff' _ (wellFormed_iff disk)

/-! ## Names in a folder -/

/-- The name of a row that stands directly inside a folder. -/
def nameIn? (location : Location) (row : Location × Entry) : Option Name :=
  match row.1.getLast? with
  | some name => if row.1.dropLast = location then some name else none
  | none => none

theorem nameIn?_eq_some_iff {location : Location} {row : Location × Entry} {name : Name} :
    nameIn? location row = some name ↔ row.1 = location ++ [name] := by
  obtain ⟨other, entry⟩ := row
  rw [nameIn?]
  rcases List.eq_nil_or_concat other with rfl | ⟨front, last, rfl⟩
  · simp
  · simp

theorem namesIn_eq_filterMap (disk : Disk) (location : Location) :
    disk.namesIn location = disk.entries.filterMap (nameIn? location) :=
  rfl

theorem mem_namesIn_iff {disk : Disk} {location : Location} {name : Name} :
    name ∈ disk.namesIn location ↔ ∃ entry, disk.entry? (location ++ [name]) = some entry := by
  rw [namesIn_eq_filterMap, List.mem_filterMap, entry?_of_ne_nil (by simp),
    ← Option.isSome_iff_exists]
  simp [nameIn?_eq_some_iff]

/-- No name is listed twice. -/
theorem WellFormed.nodup_namesIn {disk : Disk} (tree : disk.WellFormed) (location : Location) :
    (disk.namesIn location).Nodup := by
  rw [namesIn_eq_filterMap, List.Nodup, List.pairwise_filterMap]
  refine (List.pairwise_map.mp tree.distinct).imp ?_
  intro first second different name ofFirst other ofSecond same
  rw [nameIn?_eq_some_iff] at ofFirst ofSecond
  exact different (by rw [ofFirst, ofSecond, same])

theorem WellFormed.isFileName {disk : Disk} (tree : disk.WellFormed) {location : Location}
    {name : Name} (listed : name ∈ disk.namesIn location) : IsFileName name := by
  obtain ⟨row, member, named⟩ := List.mem_filterMap.mp listed
  refine tree.named row member name ?_
  rw [nameIn?_eq_some_iff.mp named]
  simp

theorem WellFormed.isName {disk : Disk} (tree : disk.WellFormed) {location : Location}
    {name : Name} {entry : Entry} (found : disk.entry? (location ++ [name]) = some entry) :
    Path.IsName name :=
  (tree.isFileName (mem_namesIn_iff.mpr ⟨entry, found⟩)).toIsName

/-- Different names in a folder have different paths. -/
theorem WellFormed.pairwise_join {disk : Disk} (tree : disk.WellFormed) (location : Location)
    (folder : Path) :
    ((disk.namesIn location).map fun name => folder.join ⟨name⟩).Pairwise
      fun first second => first.components ≠ second.components := by
  rw [List.pairwise_map]
  refine (tree.nodup_namesIn location).imp_of_mem ?_
  intro first second isFirst isSecond different same
  rw [Path.components_join _ (tree.isFileName isFirst).toIsName,
    Path.components_join _ (tree.isFileName isSecond).toIsName] at same
  exact different (by simpa using same)

theorem list_eq_ok {disk : Disk} {folder : Path} {location : Location}
    (resolved : disk.resolve folder = .ok (location, .folder)) :
    disk.list folder = .ok ((disk.namesIn location).map fun name => folder.join ⟨name⟩) := by
  obtain ⟨-, -, found⟩ := resolve_eq_ok_iff.mp resolved
  rw [list, resolved]
  change (disk.requireFolder location >>= _) = _
  rw [requireFolder_eq_ok_iff.mpr found]
  rfl

/-! ## Following a listed path -/

theorem requireUsable_eq_ok_iff {path : Path} :
    requireUsable path = .ok () ↔
      0 ∉ path.bytes ∧ path.bytes ≠ [] ∧ path.bytes.length ≤ longestPath := by
  rw [requireUsable]
  split
  · simp_all
  · split
    · simp_all
    · split
      · simp_all
      · simp_all

theorem requireName_eq_ok_iff {name : Name} :
    requireName name = .ok () ↔ name.length ≤ longestName := by
  rw [requireName]
  split
  · simp_all
  · simp_all

theorem requireUsable_join_part_iff {folder : Path} {part : Bytes}
    (usable : requireUsable folder = .ok ()) (closed : Path.slash ∉ part) (noZero : 0 ∉ part) :
    requireUsable (folder.join ⟨part⟩) = .ok () ↔
      (folder.join ⟨part⟩).bytes.length ≤ longestPath := by
  obtain ⟨noZeroFolder, written, -⟩ := requireUsable_eq_ok_iff.mp usable
  obtain ⟨body, joined, shape⟩ := Path.bytes_join closed written
  have noZeroBody : 0 ∉ body := by
    rcases shape with same | ended
    · rwa [same] at noZeroFolder
    · simp_all
  rw [requireUsable_eq_ok_iff, joined]
  simp [noZeroBody, noZero, Path.slash]

theorem requireUsable_join_iff {folder : Path} {name : Name}
    (usable : requireUsable folder = .ok ()) (isName : IsFileName name) :
    requireUsable (folder.join ⟨name⟩) = .ok () ↔
      (folder.join ⟨name⟩).bytes.length ≤ longestPath :=
  requireUsable_join_part_iff usable isName.closed isName.noZero

/-- A walk along the path of a part in a folder goes through the folder, whatever the
folder is. -/
theorem walk_join_eq_bind {folder : Path} {part : Bytes} (disk : Disk)
    (written : folder.bytes ≠ []) (closed : Path.slash ∉ part) :
    disk.walk (disk.startOf (folder.join ⟨part⟩))
        (Text.pieces Path.slash (folder.join ⟨part⟩).bytes) =
      disk.walk (disk.startOf folder) (Text.pieces Path.slash folder.bytes) >>=
        fun location => disk.walk location [part] := by
  obtain ⟨body, joined, shape⟩ := Path.bytes_join closed written
  have start : disk.startOf (folder.join ⟨part⟩) = disk.startOf folder := by
    rcases shape with same | ended
    · rw [same] at written
      simp [startOf, Path.isAbsolute, joined, same, List.head?_append_of_ne_nil _ written]
    · cases body <;> simp [startOf, Path.isAbsolute, joined, ended]
  rw [start, joined, Text.pieces_append_cons, Text.pieces_of_not_mem closed, walk_append]
  rcases shape with same | ended
  · rw [same]
  -- A slash at the end of the folder adds an idle part, which the joined path lacks.
  · rw [ended, Text.pieces_append_cons, walk_append]
    cases disk.walk (disk.startOf folder) (Text.pieces Path.slash body) with
    | error fault => rfl
    | ok location =>
        change disk.walk location [part] =
          (disk.walk location [[]] >>= fun middle => disk.walk middle [part])
        cases folder : disk.requireFolder location with
        | error fault =>
            simp only [walk, folder]
            rfl
        | ok _ =>
            have stays : disk.walk location [[]] = .ok location :=
              walk_idle (requireFolder_eq_ok_iff.mp folder) rfl
            rw [stays]
            rfl

theorem walk_join_part {disk : Disk} {folder : Path} {location : Location} {part : Bytes}
    (resolved : disk.resolve folder = .ok (location, .folder)) (closed : Path.slash ∉ part) :
    disk.walk (disk.startOf (folder.join ⟨part⟩))
        (Text.pieces Path.slash (folder.join ⟨part⟩).bytes) = disk.walk location [part] := by
  obtain ⟨usable, walked, -⟩ := resolve_eq_ok_iff.mp resolved
  obtain ⟨-, written, -⟩ := requireUsable_eq_ok_iff.mp usable
  rw [walk_join_eq_bind disk written closed, walked]
  rfl

theorem walk_join {disk : Disk} {folder : Path} {location : Location} {name : Name}
    (resolved : disk.resolve folder = .ok (location, .folder)) (isName : IsFileName name) :
    disk.walk (disk.startOf (folder.join ⟨name⟩))
        (Text.pieces Path.slash (folder.join ⟨name⟩).bytes) = .ok (location ++ [name]) := by
  obtain ⟨-, -, found⟩ := resolve_eq_ok_iff.mp resolved
  rw [walk_join_part resolved isName.closed]
  exact walk_name found isName.active isName.down (requireName_eq_ok_iff.mpr isName.short)

/-- The path of a name in a folder leads to what the name names, unless it is too
long. -/
theorem resolve_join_eq_ok_iff {disk : Disk} {folder : Path} {location place : Location}
    {name : Name} {entry : Entry} (resolved : disk.resolve folder = .ok (location, .folder))
    (isName : IsFileName name) :
    disk.resolve (folder.join ⟨name⟩) = .ok (place, entry) ↔
      (folder.join ⟨name⟩).bytes.length ≤ longestPath ∧ place = location ++ [name] ∧
        disk.entry? place = some entry := by
  obtain ⟨usable, -, -⟩ := resolve_eq_ok_iff.mp resolved
  rw [resolve_eq_ok_iff, requireUsable_join_iff usable isName, walk_join resolved isName,
    Except.ok.injEq, eq_comm (a := location ++ [name])]

/-- A file in a folder is found by its path, unless that is too long. -/
theorem isFile_join_iff {disk : Disk} {folder : Path} {location : Location} {name : Name}
    (resolved : disk.resolve folder = .ok (location, .folder)) (isName : IsFileName name) :
    disk.isFile (folder.join ⟨name⟩) = true ↔
      (folder.join ⟨name⟩).bytes.length ≤ longestPath ∧
        ∃ contents, disk.entry? (location ++ [name]) = some (.file contents) := by
  rw [isFile_iff]
  simp [read_eq_ok_iff, resolve_join_eq_ok_iff resolved isName]

/-- A path that leads to a name in a folder leads to the folder on the way. -/
theorem exists_resolve_of_resolve_join {disk : Disk} {folder : Path} {name : Name}
    {place : Location} {entry : Entry} (written : folder.bytes ≠ []) (closed : Path.slash ∉ name)
    (resolved : disk.resolve (folder.join ⟨name⟩) = .ok (place, entry)) :
    ∃ location, disk.resolve folder = .ok (location, .folder) := by
  obtain ⟨usable, walked, -⟩ := resolve_eq_ok_iff.mp resolved
  obtain ⟨noZero, -, short⟩ := requireUsable_eq_ok_iff.mp usable
  rw [walk_join_eq_bind disk written closed] at walked
  obtain ⟨location, walked, last⟩ := bind_eq_ok_iff.mp walked
  obtain ⟨_, isFolder, -⟩ := bind_eq_ok_iff.mp last
  have noZeroFolder : 0 ∉ folder.bytes := by
    obtain ⟨body, joined, shape⟩ := Path.bytes_join closed written
    rw [joined] at noZero
    rcases shape with same | ended
    · simp_all
    · simp_all
  have shorter := (folder.length_le_length_join closed).trans short
  exact ⟨location, resolve_eq_ok_iff.mpr ⟨requireUsable_eq_ok_iff.mpr
    ⟨noZeroFolder, written, shorter⟩, walked, requireFolder_eq_ok_iff.mp isFolder⟩⟩

/-- The path of a name alone starts in the current folder. -/
theorem resolve_name_eq_ok_iff {disk : Disk} {name : Name} {place : Location} {entry : Entry}
    (isName : IsFileName name) :
    disk.resolve ⟨name⟩ = .ok (place, entry) ↔
      name.length ≤ longestPath ∧ disk.entry? disk.current = some .folder ∧
        place = disk.current ++ [name] ∧ disk.entry? place = some entry := by
  have filled := isName.ne_nil
  have start : disk.startOf ⟨name⟩ = disk.current := by
    rw [startOf, if_neg]
    intro absolute
    exact isName.closed (List.mem_of_head? (beq_iff_eq.mp absolute))
  have walked : disk.walk disk.current [name] = .ok place ↔
      disk.entry? disk.current = some .folder ∧ place = disk.current ++ [name] := by
    constructor
    · intro walked
      obtain ⟨_, isFolder, -⟩ := bind_eq_ok_iff.mp walked
      have isFolder := requireFolder_eq_ok_iff.mp isFolder
      rw [walk_name isFolder isName.active isName.down
        (requireName_eq_ok_iff.mpr isName.short)] at walked
      exact ⟨isFolder, (Except.ok.inj walked).symm⟩
    · rintro ⟨isFolder, rfl⟩
      exact walk_name isFolder isName.active isName.down (requireName_eq_ok_iff.mpr isName.short)
  rw [resolve_eq_ok_iff, requireUsable_eq_ok_iff, start, Text.pieces_of_not_mem isName.closed,
    walked]
  simp [isName.noZero, filled, and_assoc]

/-- The folder that a path names.  The empty path names the current folder. -/
def NamesFolder (disk : Disk) (path : Path) (location : Location) : Prop :=
  (path.bytes = [] ∧ location = disk.current ∧ disk.entry? location = some .folder) ∨
    disk.resolve path = .ok (location, .folder)

/-- A file in a folder is read by its path, unless that is too long. -/
theorem read_join_eq_ok_iff {disk : Disk} {folder : Path} {name : Name} {contents : Bytes}
    (isName : IsFileName name) :
    disk.read (folder.join ⟨name⟩) = .ok contents ↔
      (folder.join ⟨name⟩).bytes.length ≤ longestPath ∧
        ∃ location, disk.NamesFolder folder location ∧
          disk.entry? (location ++ [name]) = some (.file contents) := by
  rw [read_eq_ok_iff]
  by_cases empty : folder.bytes = []
  · have alone : folder.join ⟨name⟩ = ⟨name⟩ := by simp [Path.join, empty]
    have nowhere : ∀ location, disk.resolve folder ≠ .ok (location, .folder) := by
      intro location resolved
      obtain ⟨usable, -, -⟩ := resolve_eq_ok_iff.mp resolved
      exact (requireUsable_eq_ok_iff.mp usable).2.1 empty
    rw [alone]
    simp only [resolve_name_eq_ok_iff isName, NamesFolder, empty, nowhere, true_and, or_false]
    constructor
    · rintro ⟨place, short, isFolder, rfl, found⟩
      exact ⟨short, disk.current, ⟨rfl, isFolder⟩, found⟩
    · rintro ⟨short, location, ⟨rfl, isFolder⟩, found⟩
      exact ⟨_, short, isFolder, rfl, found⟩
  · constructor
    · rintro ⟨place, resolved⟩
      obtain ⟨location, isFolder⟩ := exists_resolve_of_resolve_join empty isName.closed resolved
      obtain ⟨short, rfl, found⟩ := (resolve_join_eq_ok_iff isFolder isName).mp resolved
      exact ⟨short, location, .inr isFolder, found⟩
    · rintro ⟨short, location, ⟨nothing, -⟩ | isFolder, found⟩
      · contradiction
      · exact ⟨_, (resolve_join_eq_ok_iff isFolder isName).mpr ⟨short, rfl, found⟩⟩

theorem walk_slashes {disk : Disk} {location : Location}
    (folder : disk.entry? location = some .folder) (count : Nat) :
    disk.walk location (Text.pieces Path.slash (List.replicate count Path.slash)) =
      .ok location := by
  induction count with
  | zero => exact walk_idle folder rfl
  | succ count ih =>
      rw [List.replicate_succ, Text.pieces, if_pos rfl]
      exact (walk_idle folder rfl).trans ih

/-- Slashes at the end of the path of a folder make no difference. -/
theorem resolve_append_slashes {disk : Disk} {folder : Path} {location : Location} {count : Nat}
    (resolved : disk.resolve folder = .ok (location, .folder))
    (short : folder.bytes.length + (count + 1) ≤ longestPath) :
    disk.resolve ⟨folder.bytes ++ List.replicate (count + 1) Path.slash⟩ =
      .ok (location, .folder) := by
  obtain ⟨usable, walked, found⟩ := resolve_eq_ok_iff.mp resolved
  obtain ⟨noZero, written, -⟩ := requireUsable_eq_ok_iff.mp usable
  have start : disk.startOf ⟨folder.bytes ++ List.replicate (count + 1) Path.slash⟩ =
      disk.startOf folder := by
    simp [startOf, Path.isAbsolute, List.head?_append_of_ne_nil _ written]
  refine resolve_eq_ok_iff.mpr ⟨requireUsable_eq_ok_iff.mpr ⟨?_, ?_, ?_⟩, ?_, found⟩
  · simp [noZero, Path.slash]
  · simp
  · simpa using short
  · rw [start, List.replicate_succ, Text.pieces_append_cons, walk_append, walked]
    exact walk_slashes found count

/-! ## The order of the table -/

/-- In a file tree, what stands at a location is what its row says. -/
theorem WellFormed.entry?_eq_some_iff {disk : Disk} (tree : disk.WellFormed) {location : Location}
    {entry : Entry} (below : location ≠ []) :
    disk.entry? location = some entry ↔ (location, entry) ∈ disk.entries := by
  rw [entry?_of_ne_nil below, List.lookup_eq_some_iff]
  constructor
  · rintro ⟨before, after, shape, -⟩
    rw [shape]
    simp
  · intro member
    obtain ⟨before, after, shape⟩ := List.append_of_mem member
    refine ⟨before, after, shape, ?_⟩
    intro row earlier
    rw [bne_iff_ne]
    rintro rfl
    have distinct := tree.distinct
    rw [shape, List.map_append, List.map_cons] at distinct
    exact (List.nodup_middle.mp distinct).notMem
      (List.mem_append_left _ (List.mem_map.mpr ⟨row, earlier, rfl⟩))

/-- Two tables of one file tree. -/
structure SameTree (disk other : Disk) : Prop where
  rows : disk.entries.Perm other.entries
  current : disk.current = other.current

theorem SameTree.wellFormed {disk other : Disk} (same : SameTree disk other)
    (tree : disk.WellFormed) : other.WellFormed where
  named := by
    intro row member
    exact tree.named row (same.rows.mem_iff.mpr member)
  distinct := (same.rows.map Prod.fst).nodup_iff.mp tree.distinct

theorem SameTree.entry?_eq {disk other : Disk} (same : SameTree disk other)
    (tree : disk.WellFormed) (location : Location) :
    disk.entry? location = other.entry? location := by
  by_cases root : location = []
  · rw [root]
    rfl
  · apply Option.ext
    intro entry
    rw [tree.entry?_eq_some_iff root, (same.wellFormed tree).entry?_eq_some_iff root]
    exact same.rows.mem_iff

theorem walk_congr {disk other : Disk}
    (same : ∀ location, disk.entry? location = other.entry? location) (start : Location)
    (parts : List Bytes) : disk.walk start parts = other.walk start parts := by
  induction parts generalizing start with
  | nil => rfl
  | cons part parts ih => simp only [walk, requireFolder, same, ih]

theorem SameTree.resolve_eq {disk other : Disk} (same : SameTree disk other)
    (tree : disk.WellFormed) (path : Path) : disk.resolve path = other.resolve path := by
  have entries := same.entry?_eq tree
  simp only [resolve, startOf, same.current, walk_congr entries, entries]

theorem SameTree.isFile_eq {disk other : Disk} (same : SameTree disk other)
    (tree : disk.WellFormed) (path : Path) : disk.isFile path = other.isFile path := by
  simp only [isFile, find?, same.resolve_eq tree]

end GoldenCheck.Disk
