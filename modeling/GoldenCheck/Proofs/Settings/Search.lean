import GoldenCheck.Proofs.Disk.Ancestors
import GoldenCheck.Proofs.Disk.Tree
import GoldenCheck.Settings.Search

/-!
# The nearest settings file

Settings come from the nearest folder that holds a settings file, going up from the start
of the search, and from no other.  Neither the files farther up nor the defaults make up
for one that cannot be used.  The root of the settings is that folder, however the path
of the file spells it.  A file whose path is too long to be followed is passed over.
-/

namespace GoldenCheck

namespace Settings

open Disk

/-! ## The root of settings -/

/-- A change of the result may be made in each branch of a choice. -/
theorem ite_eq_map_ite {ε α β : Type} {condition : Prop} [Decidable condition] {change : α → β}
    {first second : Except ε β} {other another : Except ε α} (yes : first = other.map change)
    (no : second = another.map change) :
    (if condition then first else second) =
      (if condition then other else another).map change := by
  by_cases met : condition
  · rw [if_pos met, if_pos met, yes]
  · rw [if_neg met, if_neg met, no]

theorem assign_root (settings : Settings) (root : Path) (entry : Text × Toml.Item) :
    assign { settings with root := root } entry =
      (assign settings entry).map fun changed => { changed with root := root } := by
  obtain ⟨key, item⟩ := entry
  rw [assign, assign]
  refine ite_eq_map_ite ?_ (ite_eq_map_ite ?_ (ite_eq_map_ite ?_ (ite_eq_map_ite ?_
    (ite_eq_map_ite ?_ (ite_eq_map_ite ?_ (ite_eq_map_ite ?_ (ite_eq_map_ite ?_ rfl)))))))
  · cases readText item <;> rfl
  · cases readPath item <;> rfl
  · cases readPath item <;> rfl
  · cases readText item <;> rfl
  · cases readChoice headerChoices item <;> rfl
  · cases readChoice ruleOrderChoices item <;> rfl
  · cases readFlag item <;> rfl
  · cases readChoice compareModeChoices item <;> rfl

theorem foldlM_assign_root (settings : Settings) (root : Path) (entries : Toml.Entries) :
    entries.foldlM assign { settings with root := root } =
      (entries.foldlM assign settings).map fun changed => { changed with root := root } := by
  induction entries generalizing settings with
  | nil => rfl
  | cons entry entries ih =>
      rw [List.foldlM_cons, List.foldlM_cons, assign_root]
      cases assign settings entry with
      | error fault => rfl
      | ok changed => exact ih changed

/-- No key of a settings file says anything about the root. -/
theorem parse_root (root other : Path) (text : Text) :
    parse root text = (parse other text).map fun settings => { settings with root := root } := by
  rw [parse, parse]
  cases Toml.document? text with
  | none => rfl
  | some entries => exact foldlM_assign_root (defaults other) root entries

/-! ## Reading a settings file -/

/-- What the contents of a settings file say, under a given root. -/
def ofContents (path root : Path) (contents : Bytes) : Except Failure Settings :=
  match Text.decode? contents with
  | some text => failWith (.settings path) (parse root text)
  | none => .error (.reading path .notText)

theorem root_of_ofContents {path root : Path} {contents : Bytes} {settings : Settings}
    (read : ofContents path root contents = .ok settings) : settings.root = root := by
  rw [ofContents] at read
  split at read
  · rename_i text _
    rw [parse_root root root text] at read
    cases parsed : parse root text with
    | error fault =>
        rw [parsed] at read
        contradiction
    | ok found =>
        rw [parsed] at read
        rw [← Except.ok.inj read]
  · contradiction

theorem load_of_read {disk : Disk} {path : Path} {contents : Bytes}
    (read : disk.read path = .ok contents) :
    load disk path = ofContents path (path.parent?.getD (Path.ofText ".")) contents := by
  rw [load, Disk.readText, read, ofContents]
  change (failWith _ (match Text.decode? contents with | some text => _ | none => _) >>= _) = _
  cases Text.decode? contents <;> rfl

theorem load_of_not_read {disk : Disk} {path : Path} {cause : FileError}
    (failed : disk.read path = .error cause) : load disk path = .error (.reading path cause) := by
  rw [load, Disk.readText, failed]
  rfl

/-! ## The nearest settings file -/

/-- A folder holds a settings file that can be reached. -/
structure HoldsSettings (disk : Disk) (folder : Path) (contents : Bytes) : Prop where
  held : ∃ location, disk.NamesFolder folder location ∧
    disk.entry? (location ++ [fileName.bytes]) = some (.file contents)
  short : (folder.join fileName).bytes.length ≤ longestPath

theorem isFileName_fileName : IsFileName fileName.bytes := by
  decide +kernel

theorem read_join_fileName_iff {disk : Disk} {folder : Path} {contents : Bytes} :
    disk.read (folder.join fileName) = .ok contents ↔ HoldsSettings disk folder contents := by
  have read := @read_join_eq_ok_iff disk folder fileName.bytes contents isFileName_fileName
  constructor
  · intro found
    obtain ⟨short, held⟩ := read.mp found
    exact ⟨held, short⟩
  · rintro ⟨held, short⟩
    exact read.mpr ⟨short, held⟩

theorem isFile_join_fileName_iff {disk : Disk} {folder : Path} :
    disk.isFile (folder.join fileName) = true ↔ ∃ contents, HoldsSettings disk folder contents := by
  rw [isFile_iff]
  simp only [read_join_fileName_iff]

/-- A folder on the way up is the first that holds a settings file. -/
structure IsNearest (disk : Disk) (start folder : Path) (contents : Bytes) : Prop where
  first : ∃ nearer farther, start.ancestors = nearer ++ folder :: farther ∧
    ∀ other ∈ nearer, ∀ held, ¬HoldsSettings disk other held
  holds : HoldsSettings disk folder contents

theorem exists_isNearest {disk : Disk} {start folder : Path} {contents : Bytes}
    (above : folder ∈ start.ancestors) (holds : HoldsSettings disk folder contents) :
    ∃ nearest held, IsNearest disk start nearest held := by
  have found : disk.isFile (folder.join fileName) = true :=
    isFile_join_fileName_iff.mpr ⟨contents, holds⟩
  have something : (start.ancestors.find? fun other => disk.isFile (other.join fileName)).isSome :=
    List.find?_isSome.mpr ⟨folder, above, found⟩
  obtain ⟨nearest, first⟩ := Option.isSome_iff_exists.mp something
  obtain ⟨isFile, nearer, farther, climbed, passed⟩ := List.find?_eq_some_iff_append.mp first
  obtain ⟨held, holds⟩ := isFile_join_fileName_iff.mp isFile
  refine ⟨nearest, held, ⟨nearer, farther, climbed, ?_⟩, holds⟩
  intro other isNearer otherHeld otherHolds
  have isFile := isFile_join_fileName_iff.mpr ⟨otherHeld, otherHolds⟩
  simpa [isFile] using passed other isNearer

theorem IsNearest.searchUpward_eq {disk : Disk} {start folder : Path} {contents : Bytes}
    (nearest : IsNearest disk start folder contents) :
    disk.searchUpward start fileName = some (folder.join fileName) := by
  obtain ⟨⟨nearer, farther, climbed, passed⟩, holds⟩ := nearest
  have found : disk.isFile (folder.join fileName) = true :=
    isFile_join_fileName_iff.mpr ⟨contents, holds⟩
  rw [searchUpward, climbed, List.map_append, List.map_cons, List.find?_append,
    List.find?_cons_of_pos found]
  have nothing : (nearer.map fun folder => folder.join fileName).find? disk.isFile = none := by
    rw [List.find?_eq_none]
    intro path member isFile
    obtain ⟨other, isNearer, rfl⟩ := List.mem_map.mp member
    obtain ⟨held, holds⟩ := isFile_join_fileName_iff.mp isFile
    exact passed other isNearer held holds
  rw [nothing, Option.none_or]

theorem searchUpward_eq_none {disk : Disk} {start : Path}
    (nothing : ∀ folder ∈ start.ancestors, ∀ contents, ¬HoldsSettings disk folder contents) :
    disk.searchUpward start fileName = none := by
  rw [searchUpward, List.find?_eq_none]
  intro path member isFile
  obtain ⟨folder, above, rfl⟩ := List.mem_map.mp member
  obtain ⟨contents, holds⟩ := isFile_join_fileName_iff.mp isFile
  exact nothing folder above contents holds

/-- The root that a settings file in a folder has is the folder. -/
theorem components_root (folder : Path) :
    ((folder.join fileName).parent?.getD (Path.ofText ".")).components = folder.components := by
  have ends := Path.components_join folder isFileName_fileName.toIsName
  obtain ⟨above, climbed, components⟩ := Path.exists_parent?_eq_some ends
  have climbed : (folder.join fileName).parent? = some above := climbed
  rw [climbed]
  exact components

/-- Settings are found in the nearest folder that holds a settings file, going up from
the start.  What its file says is the result, be it settings with that folder for their
root or a failure; no other file makes a difference.  Without such a folder the defaults
hold under the start, and a file that is asked for is the only one that is looked at. -/
theorem nearest_settings_decide (start : Path) :
    ((start.ancestors.map Path.components).reverse =
      if start.isAbsolute then start.components.inits.tail else start.components.inits) ∧
    (∀ disk folder contents, folder ∈ start.ancestors → HoldsSettings disk folder contents →
      ∃ nearest held, IsNearest disk start nearest held) ∧
    (∀ folder, ∃ root : Path, root.components = folder.components ∧
      ∀ disk contents, IsNearest disk start folder contents →
        (source disk none start).settings disk =
          ofContents (folder.join fileName) root contents ∧
        ∀ settings, (source disk none start).settings disk = .ok settings →
          settings.root = root) ∧
    (∀ disk, (∀ folder ∈ start.ancestors, ∀ contents, ¬HoldsSettings disk folder contents) →
      (source disk none start).settings disk = .ok (defaults start)) ∧
    (∀ disk path, (source disk (some path) start).settings disk =
      match disk.read path with
      | .ok contents => ofContents path (path.parent?.getD (Path.ofText ".")) contents
      | .error cause => .error (.reading path cause)) ∧
    ∀ disk other folder contents, IsNearest disk start folder contents →
      IsNearest other start folder contents →
      (source disk none start).settings disk = (source other none start).settings other := by
  have found {disk : Disk} {folder : Path} {contents : Bytes}
      (nearest : IsNearest disk start folder contents) :
      (source disk none start).settings disk =
        ofContents (folder.join fileName)
          ((folder.join fileName).parent?.getD (Path.ofText ".")) contents := by
    have read := read_join_fileName_iff.mpr nearest.holds
    rw [source, nearest.searchUpward_eq]
    exact load_of_read read
  refine ⟨start.reverse_map_components_ancestors, ?_, ?_, ?_, ?_, ?_⟩
  · intro disk folder contents above holds
    exact exists_isNearest above holds
  · intro folder
    refine ⟨_, components_root folder, ?_⟩
    intro disk contents nearest
    refine ⟨found nearest, ?_⟩
    intro settings result
    exact root_of_ofContents ((found nearest).symm.trans result)
  · intro disk nothing
    rw [source, searchUpward_eq_none nothing]
    rfl
  · intro disk path
    change load disk path = _
    cases read : disk.read path with
    | ok contents => exact load_of_read read
    | error cause => exact load_of_not_read read
  · intro disk other folder contents nearest alsoNearest
    exact (found nearest).trans (found alsoNearest).symm

/-- A folder that has the name of a settings file is no settings file, so the nearest
one is that of the folder above. -/
theorem nearest_settings_above_folder :
    let contents := Text.encode "tool = \"mypy\"\n"
    let disk : Disk := ⟨[([Text.encode "p"], .folder),
      ([Text.encode "p", fileName.bytes], .file contents),
      ([Text.encode "p", Text.encode "q"], .folder),
      ([Text.encode "p", Text.encode "q", fileName.bytes], .folder)], []⟩
    let start := Path.ofText "p//q/."
    IsNearest disk start (Path.ofText "p") contents ∧
      ∃ root : Path, root.components = [.name (Text.encode "p")] ∧
        (source disk none start).settings disk =
          ofContents (Path.ofText "p/pyright_ignore.toml") root contents := by
  intro contents disk start
  have climbed : start.ancestors = [start] ++ Path.ofText "p" :: [⟨[]⟩] := by decide +kernel
  have passed : disk.isFile (start.join fileName) = false := by decide +kernel
  have nearest : IsNearest disk start (Path.ofText "p") contents := by
    refine ⟨⟨[start], [⟨[]⟩], climbed, ?_⟩, ⟨[Text.encode "p"], .inr (by decide +kernel), ?_⟩, ?_⟩
    · intro other isNearer held holds
      obtain rfl := List.mem_singleton.mp isNearer
      exact Bool.false_ne_true (passed.symm.trans (isFile_join_fileName_iff.mpr ⟨held, holds⟩))
    · decide +kernel
    · decide +kernel
  obtain ⟨-, -, found, -⟩ := nearest_settings_decide start
  obtain ⟨root, components, result⟩ := found (Path.ofText "p")
  exact ⟨nearest, root, components, (result disk contents nearest).1⟩

/-- A settings file whose path is too long is passed over, although the path of its folder
can be followed. -/
theorem long_path_hides_settings :
    let start : Path := ⟨Text.encode "d" ++ List.replicate 4080 Path.slash⟩
    let disk : Disk := ⟨[([Text.encode "d"], .folder),
      ([Text.encode "d", fileName.bytes], .file (Text.encode "tool = \"mypy\"\n"))], []⟩
    disk.IsTree ∧ disk.resolve start = .ok ([Text.encode "d"], .folder) ∧
      disk.entry? [Text.encode "d", fileName.bytes] =
        some (.file (Text.encode "tool = \"mypy\"\n")) ∧
      (source disk none start).settings disk = .ok (defaults start) := by
  intro start disk
  have climbed : start.ancestors = [start, ⟨[]⟩] := by decide +kernel
  have resolved : disk.resolve start = .ok ([Text.encode "d"], .folder) :=
    @resolve_append_slashes disk ⟨Text.encode "d"⟩ _ 4079 (by decide +kernel) (by decide)
  have long : longestPath < (start.join fileName).bytes.length := by
    have least := Path.length_join_le isFileName_fileName.closed
      (List.append_ne_nil_of_left_ne_nil (by decide) _ : start.bytes ≠ [])
    have lengths : start.bytes.length + fileName.bytes.length = 4100 := by
      rw [List.length_append, List.length_replicate]
      decide +kernel
    rw [lengths] at least
    exact Nat.lt_of_lt_of_le (by decide) least
  have passed : disk.isFile ((Path.mk []).join fileName) = false := by decide +kernel
  refine ⟨by decide +kernel, resolved, by decide +kernel, ?_⟩
  rw [source, searchUpward_eq_none]
  · rfl
  · intro folder above contents holds
    rw [climbed] at above
    rcases List.mem_cons.mp above with rfl | above
    · exact absurd holds.short (Nat.not_le.mpr long)
    · obtain rfl := List.mem_singleton.mp above
      exact Bool.false_ne_true
        (passed.symm.trans (isFile_join_fileName_iff.mpr ⟨contents, holds⟩))

end Settings

end GoldenCheck
