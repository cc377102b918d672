import GoldenCheck.Pairing
import GoldenCheck.Proofs.Disk.Listing

/-!
# The pairing of a folder

A pairing divides the Python files of a folder into those that belong to a pair and
those that do not.  The name of an expected file can be taken apart in one way only,
at its last dot and before the suffix, so a pair is determined by its expected file
and also by its input.  Listed names are different and paths are ordered by their
components, so it makes no difference in which order a folder lists its files.
-/

namespace GoldenCheck

open Disk

/-! ## The parts of a name -/

/-- The parts of the name of a Python file. -/
structure IsPythonName (name stem : Bytes) (extension : Text) : Prop where
  shape : name = stem ++ Path.dot :: Text.encode extension
  filled : stem ≠ []
  python : extension = "py" ∨ extension = "pyi"

theorem IsPythonName.splitName {name stem : Bytes} {extension : Text}
    (isPython : IsPythonName name stem extension) :
    Path.splitName name = (stem, some (Text.encode extension)) := by
  have plain : Path.dot ∉ Text.encode extension := by
    rcases isPython.python with rfl | rfl <;> decide
  exact Path.splitName_eq_some_iff.mpr ⟨isPython.shape, isPython.filled, plain⟩

/-- A name has its parts in one way only. -/
theorem IsPythonName.unique {name stem other : Bytes} {extension another : Text}
    (isPython : IsPythonName name stem extension) (alsoPython : IsPythonName name other another) :
    stem = other ∧ extension = another := by
  have split := isPython.splitName.symm.trans alsoPython.splitName
  rw [Prod.mk.injEq, Option.some.injEq] at split
  exact ⟨split.1, Text.encode_injective split.2⟩

/-- A path is that of a Python file if its last component is the name of one. -/
theorem Path.isPython_iff {path : Path} :
    path.isPython = true ↔
      ∃ name stem extension, path.fileName? = some name ∧ IsPythonName name stem extension := by
  rw [Path.isPython, Path.extension?, Bool.or_eq_true, beq_iff_eq, beq_iff_eq]
  simp only [Option.bind_eq_some_iff]
  constructor
  · have shape {name : Bytes} {extension : Text}
        (found : (Path.splitName name).2 = some (Text.encode extension)) :
        name = (Path.splitName name).1 ++ Path.dot :: Text.encode extension ∧
          (Path.splitName name).1 ≠ [] := by
      have split := Path.splitName_eq_some_iff.mp (Prod.ext rfl found)
      exact ⟨split.1, split.2.1⟩
    rintro (⟨name, named, found⟩ | ⟨name, named, found⟩)
    · exact ⟨name, _, _, named, (shape found).1, (shape found).2, .inl rfl⟩
    · exact ⟨name, _, _, named, (shape found).1, (shape found).2, .inr rfl⟩
  · rintro ⟨name, stem, extension, named, isPython⟩
    have split := congrArg Prod.snd isPython.splitName
    rcases isPython.python with rfl | rfl
    · exact .inl ⟨name, named, split⟩
    · exact .inr ⟨name, named, split⟩

theorem isPython_join_iff {folder : Path} {name : Bytes} (isName : Path.IsName name) :
    (folder.join ⟨name⟩).isPython = true ↔ ∃ stem extension, IsPythonName name stem extension := by
  rw [Path.isPython_iff, Path.fileName?_join folder isName]
  simp

namespace Pair

/-- The case of a Python file is its stem without the suffix. -/
theorem case?_join_eq_some_iff {folder : Path} {name stem : Bytes} {extension suffix case : Text}
    (isName : Path.IsName name) (isPython : IsPythonName name stem extension) :
    case? suffix (folder.join ⟨name⟩) = some case ↔
      case ≠ [] ∧ stem = Text.encode (case ++ suffix) := by
  rw [case?, Path.stem?, Path.fileName?_join folder isName, Option.map_some, isPython.splitName]
  simp only [bind, Option.bind_some, Option.bind_eq_some_iff, Text.decode?_eq_some_iff,
    List.isSuffixOf?_eq_some_iff_append_eq]
  constructor
  · rintro ⟨text, rfl, body, rfl, chosen⟩
    split at chosen
    · contradiction
    · rename_i filled
      obtain rfl := Option.some.inj chosen
      exact ⟨by simpa using filled, rfl⟩
  · rintro ⟨filled, rfl⟩
    exact ⟨_, rfl, case, rfl, by simp [filled]⟩

theorem inputExtension_join {folder : Path} {name stem : Bytes} {extension : Text}
    (isName : Path.IsName name) (isPython : IsPythonName name stem extension) :
    inputExtension (folder.join ⟨name⟩) = extension := by
  rw [inputExtension, Path.extension?, Path.fileName?_join folder isName, Option.bind_some,
    isPython.splitName, Option.bind_some, Text.decode?_encode, Option.getD_some]

theorem expected_of_ofExpected? {inputDir expected : Path} {suffix : Text} {pair : Pair}
    (paired : ofExpected? inputDir suffix expected = some pair) : pair.expected = expected := by
  obtain ⟨case, -, rfl⟩ := Option.map_eq_some_iff.mp paired
  rfl

theorem encode_inputName (case extension : Text) :
    Text.encode (Text.cat [case, ".", extension]) =
      Text.encode case ++ Path.dot :: Text.encode extension := by
  have point : String.utf8EncodeChar '.' = [Path.dot] := by decide
  simp [Text.cat, point]

/-- The name of an input is a name, as that of its expected file is. -/
theorem isName_inputName {name stem : Bytes} {extension suffix case : Text}
    (isName : Path.IsName name) (isPython : IsPythonName name stem extension)
    (cased : stem = Text.encode (case ++ suffix)) :
    Path.IsName (Text.encode (Text.cat [case, ".", extension])) := by
  have written : 2 ≤ (Text.encode extension).length := by
    rcases isPython.python with rfl | rfl <;> decide
  have closed := isName.closed
  rw [isPython.shape, cased, Text.encode_append] at closed
  simp only [List.mem_append, not_or] at closed
  rw [encode_inputName]
  apply Path.isName_of_length
  · rw [List.length_append, List.length_cons]
    omega
  · simp [closed]

/-- The pair of a Python file. -/
theorem ofExpected?_join_eq_some_iff {folder inputDir : Path} {name stem : Bytes}
    {extension suffix : Text} {pair : Pair} (isName : Path.IsName name)
    (isPython : IsPythonName name stem extension) :
    ofExpected? inputDir suffix (folder.join ⟨name⟩) = some pair ↔
      pair.expected = folder.join ⟨name⟩ ∧ pair.case ≠ [] ∧
        stem = Text.encode (pair.case ++ suffix) ∧
        pair.input = inputDir.join (Path.ofText (Text.cat [pair.case, ".", extension])) := by
  rw [ofExpected?, Option.map_eq_some_iff, inputExtension_join isName isPython]
  simp only [case?_join_eq_some_iff isName isPython]
  constructor
  · rintro ⟨case, ⟨filled, cased⟩, rfl⟩
    exact ⟨rfl, filled, cased, rfl⟩
  · rintro ⟨expected, filled, cased, input⟩
    refine ⟨pair.case, ⟨filled, cased⟩, ?_⟩
    rw [← input, ← expected]

end Pair

namespace Pairing

/-! ## The Python files of a folder -/

/-- A Python file directly inside the folder at a location, by its path and the
parts of its name.  A path that is too long leads nowhere. -/
def IsPythonFile (disk : Disk) (location : Location) (folder path : Path) (stem : Bytes)
    (extension : Text) : Prop :=
  ∃ name, IsPythonName name stem extension ∧
    (∃ contents, disk.entry? (location ++ [name]) = some (.file contents)) ∧
    path = folder.join ⟨name⟩ ∧ path.bytes.length ≤ longestPath

/-- The Python files of a folder in the order in which it lists them. -/
def listed (disk : Disk) (location : Location) (folder : Path) : List Path :=
  ((disk.namesIn location).map fun name => folder.join ⟨name⟩).filter
    fun path => disk.isFile path && path.isPython

section Files

variable {disk : Disk} {location : Location} {folder : Path}

theorem pythonFilesIn_eq_ok (resolved : disk.resolve folder = .ok (location, .folder)) :
    pythonFilesIn disk folder = .ok (sortBy Path.compare (listed disk location folder)) := by
  rw [pythonFilesIn, list_eq_ok resolved]
  rfl

theorem mem_listed_iff (tree : disk.WellFormed)
    (resolved : disk.resolve folder = .ok (location, .folder)) {path : Path} :
    path ∈ listed disk location folder ↔
      ∃ stem extension, IsPythonFile disk location folder path stem extension := by
  rw [listed, List.mem_filter, List.mem_map, Bool.and_eq_true]
  constructor
  · rintro ⟨⟨name, inside, rfl⟩, isFile, isPython⟩
    have isName := tree.isFileName inside
    obtain ⟨stem, extension, named⟩ := (isPython_join_iff isName.toIsName).mp isPython
    obtain ⟨short, present⟩ := (isFile_join_iff resolved isName).mp isFile
    exact ⟨stem, extension, name, named, present, rfl, short⟩
  · rintro ⟨stem, extension, name, named, ⟨contents, found⟩, rfl, short⟩
    have inside : name ∈ disk.namesIn location := mem_namesIn_iff.mpr ⟨_, found⟩
    have isName := tree.isFileName inside
    exact ⟨⟨name, inside, rfl⟩, (isFile_join_iff resolved isName).mpr ⟨short, contents, found⟩,
      (isPython_join_iff isName.toIsName).mpr ⟨stem, extension, named⟩⟩

/-- Different files of a folder have different paths. -/
theorem pairwise_listed (tree : disk.WellFormed) :
    (listed disk location folder).Pairwise
      fun first second => first.components ≠ second.components :=
  (tree.pairwise_join location folder).filter _

theorem pairwise_sortBy_listed (tree : disk.WellFormed) :
    (sortBy Path.compare (listed disk location folder)).Pairwise Path.Precedes :=
  Path.pairwise_precedes_sortBy (pairwise_listed tree)

/-- The order in which a folder lists its files makes no difference. -/
theorem sortBy_listed_of_sameTree {other : Disk} (tree : disk.WellFormed)
    (same : SameTree disk other) :
    sortBy Path.compare (listed disk location folder) =
      sortBy Path.compare (listed other location folder) := by
  have permuted : (listed disk location folder).Perm (listed other location folder) := by
    simp only [listed, same.isFile_eq tree]
    exact ((same.rows.filterMap _).map _).filter _
  exact Path.sortBy_of_perm permuted (pairwise_listed tree)

end Files

/-! ## Pairs -/

/-- A pair, by the parts of the name of its expected file: the stem is the case and
the suffix, and the input is named for the case and the same extension. -/
structure IsPair (disk : Disk) (location : Location) (expectedDir inputDir : Path)
    (suffix : Text) (pair : Pair) (stem : Bytes) (extension : Text) : Prop where
  file : IsPythonFile disk location expectedDir pair.expected stem extension
  filled : pair.case ≠ []
  cased : stem = Text.encode (pair.case ++ suffix)
  input : pair.input = inputDir.join (Path.ofText (Text.cat [pair.case, ".", extension]))

section Pairs

variable {disk : Disk} {location : Location} {expectedDir inputDir : Path} {suffix : Text}
  {path : Path} {pair other : Pair} {stem : Bytes} {extension : Text}

/-- A Python file belongs to a pair exactly if its stem is a case and the suffix. -/
theorem IsPythonFile.ofExpected?_eq_some_iff (tree : disk.WellFormed)
    (file : IsPythonFile disk location expectedDir path stem extension) :
    Pair.ofExpected? inputDir suffix path = some pair ↔
      pair.expected = path ∧
        IsPair disk location expectedDir inputDir suffix pair stem extension := by
  obtain ⟨name, isPython, ⟨contents, found⟩, rfl, short⟩ := file
  have isName := tree.isName found
  rw [Pair.ofExpected?_join_eq_some_iff isName isPython]
  constructor
  · rintro ⟨expected, filled, cased, input⟩
    refine ⟨expected, ⟨?_, filled, cased, input⟩⟩
    exact ⟨name, isPython, ⟨contents, found⟩, expected, by rw [expected]; exact short⟩
  · rintro ⟨expected, isPair⟩
    exact ⟨expected, isPair.filled, isPair.cased, isPair.input⟩

theorem IsPythonFile.ofExpected?_eq_none_iff (tree : disk.WellFormed)
    (file : IsPythonFile disk location expectedDir path stem extension) :
    Pair.ofExpected? inputDir suffix path = none ↔
      ¬∃ case, case ≠ [] ∧ stem = Text.encode (case ++ suffix) := by
  rw [← not_iff_not, not_not, ← ne_eq, Option.ne_none_iff_exists']
  constructor
  · rintro ⟨pair, paired⟩
    obtain ⟨-, isPair⟩ := (file.ofExpected?_eq_some_iff tree).mp paired
    exact ⟨pair.case, isPair.filled, isPair.cased⟩
  · rintro ⟨case, filled, cased⟩
    refine ⟨⟨case, inputDir.join (Path.ofText (Text.cat [case, ".", extension])), path⟩, ?_⟩
    exact (file.ofExpected?_eq_some_iff tree).mpr ⟨rfl, file, filled, cased, rfl⟩

theorem IsPair.isPythonName_input
    (isPair : IsPair disk location expectedDir inputDir suffix pair stem extension) :
    IsPythonName (Text.encode (Text.cat [pair.case, ".", extension])) (Text.encode pair.case)
      extension := by
  obtain ⟨_, isPython, -⟩ := isPair.file
  refine ⟨Pair.encode_inputName _ _, ?_, isPython.python⟩
  intro empty
  exact isPair.filled (Text.encode_injective empty)

theorem IsPair.isName_input (tree : disk.WellFormed)
    (isPair : IsPair disk location expectedDir inputDir suffix pair stem extension) :
    Path.IsName (Text.encode (Text.cat [pair.case, ".", extension])) := by
  obtain ⟨name, isPython, ⟨contents, found⟩, -⟩ := isPair.file
  have isName := tree.isName found
  exact Pair.isName_inputName isName isPython isPair.cased

/-- Pairs with the same input have the same expected file. -/
theorem IsPair.expected_eq {otherStem : Bytes} {otherExtension : Text} (tree : disk.WellFormed)
    (isPair : IsPair disk location expectedDir inputDir suffix pair stem extension)
    (isOther : IsPair disk location expectedDir inputDir suffix other otherStem otherExtension)
    (inputs : pair.input.components = other.input.components) :
    pair.expected = other.expected := by
  rw [isPair.input, isOther.input, Path.ofText, Path.ofText,
    Path.components_join _ (isPair.isName_input tree),
    Path.components_join _ (isOther.isName_input tree)] at inputs
  have names : Text.encode (Text.cat [pair.case, ".", extension]) =
      Text.encode (Text.cat [other.case, ".", otherExtension]) := by
    simpa using inputs
  -- Inputs are named like Python files, so equal names have equal cases.
  have isPython := isPair.isPythonName_input
  rw [names] at isPython
  obtain ⟨cases, rfl⟩ := isPython.unique isOther.isPythonName_input
  obtain ⟨name, named, -, expected, -⟩ := isPair.file
  obtain ⟨otherName, otherNamed, -, otherExpected, -⟩ := isOther.file
  rw [expected, otherExpected, named.shape, otherNamed.shape, isPair.cased, isOther.cased,
    Text.encode_append, Text.encode_append, cases]

/-- A suffix makes the name of the expected file another than that of the input. -/
theorem IsPair.fileName?_ne (tree : disk.WellFormed)
    (isPair : IsPair disk location expectedDir inputDir suffix pair stem extension)
    (suffixed : suffix ≠ []) : pair.input.fileName? ≠ pair.expected.fileName? := by
  obtain ⟨name, isPython, ⟨contents, found⟩, expected, -⟩ := isPair.file
  have isName := tree.isName found
  rw [isPair.input, expected, Path.ofText, Path.fileName?_join _ (isPair.isName_input tree),
    Path.fileName?_join _ isName]
  intro same
  have isPython := Option.some.inj same ▸ isPython
  obtain ⟨stems, -⟩ := isPair.isPythonName_input.unique isPython
  rw [isPair.cased, Text.encode_append, List.self_eq_append_right] at stems
  exact suffixed (Text.encode_injective stems)

end Pairs

/-! ## The pairing of a folder -/

/-- What the pairing of a folder is: its Python files, each in one of two lists
according to whether it belongs to a pair, and both lists in order. -/
structure IsPairing (disk : Disk) (location : Location) (expectedDir inputDir : Path)
    (suffix : Text) (pairing : Pairing) : Prop where
  mem_pairs : ∀ pair, pair ∈ pairing.pairs ↔
    ∃ stem extension, IsPair disk location expectedDir inputDir suffix pair stem extension
  mem_unpaired : ∀ path, path ∈ pairing.unpaired ↔
    ∃ stem extension, IsPythonFile disk location expectedDir path stem extension ∧
      ¬∃ case, case ≠ [] ∧ stem = Text.encode (case ++ suffix)
  divided : ∀ path stem extension, IsPythonFile disk location expectedDir path stem extension →
    (path ∈ pairing.pairs.map Pair.expected ↔ path ∉ pairing.unpaired)
  pairs_ascend : pairing.pairs.Pairwise fun first second =>
    first.expected.Precedes second.expected
  unpaired_ascend : pairing.unpaired.Pairwise Path.Precedes
  inputs_differ : pairing.pairs.Pairwise fun first second =>
    first.input.components ≠ second.input.components
  renamed : suffix ≠ [] → ∀ pair ∈ pairing.pairs,
    pair.input.fileName? ≠ pair.expected.fileName?

/-- What is said of a pairing: of each file without a pair that it has none, and of
each pair without an input that it lacks one. -/
structure Accounts (disk : Disk) (pairing : Pairing) (problems : List Problem) : Prop where
  kinds : ∀ problem ∈ problems,
    problem.kind = .unpairedFixture ∨ problem.kind = .missingInput
  unpaired : (problems.filter fun problem => problem.kind = .unpairedFixture).map Problem.path =
    pairing.unpaired
  missing : (problems.filter fun problem => problem.kind = .missingInput).map Problem.path =
    (pairing.pairs.filter fun pair => !disk.isFile pair.input).map Pair.expected

theorem accounts_problems (disk : Disk) (suffix : Text) (pairing : Pairing) :
    Accounts disk pairing (pairing.problems disk suffix) where
  kinds := by
    intro problem member
    rcases List.mem_append.mp member with unpaired | missing
    · obtain ⟨path, -, rfl⟩ := List.mem_map.mp unpaired
      exact .inl rfl
    · obtain ⟨pair, -, rfl⟩ := List.mem_map.mp missing
      exact .inr rfl
  unpaired := by
    simp [problems, List.filter_map, Function.comp_def, unpairedProblem, missingProblem]
  missing := by
    simp [problems, List.filter_map, Function.comp_def, unpairedProblem, missingProblem]

/-- The pairing of a list of files. -/
def ofFiles (inputDir : Path) (suffix : Text) (files : List Path) : Pairing where
  pairs := files.filterMap (Pair.ofExpected? inputDir suffix)
  unpaired := files.filter fun path => (Pair.ofExpected? inputDir suffix path).isNone

theorem discover_eq_ok {disk : Disk} {location : Location} {expectedDir inputDir : Path}
    {suffix : Text} (resolved : disk.resolve expectedDir = .ok (location, .folder)) :
    discover disk expectedDir inputDir suffix =
      .ok (ofFiles inputDir suffix
        (sortBy Path.compare (listed disk location expectedDir))) := by
  rw [discover, pythonFilesIn_eq_ok resolved]
  rfl

section OfFiles

variable {disk : Disk} {location : Location} {expectedDir inputDir : Path} {suffix : Text}
  {files : List Path}

/-- Every file is in one list or the other. -/
theorem mem_map_expected_iff {path : Path} (member : path ∈ files) :
    path ∈ (ofFiles inputDir suffix files).pairs.map Pair.expected ↔
      path ∉ (ofFiles inputDir suffix files).unpaired := by
  simp only [ofFiles, List.mem_map, List.mem_filterMap, List.mem_filter, member, true_and]
  constructor
  · rintro ⟨pair, ⟨other, -, paired⟩, rfl⟩
    rw [Pair.expected_of_ofExpected? paired, paired]
    simp
  · rw [Option.isNone_iff_eq_none, ← ne_eq, Option.ne_none_iff_exists']
    rintro ⟨pair, paired⟩
    exact ⟨pair, ⟨path, member, paired⟩, Pair.expected_of_ofExpected? paired⟩

theorem pairwise_pairs (ascending : files.Pairwise Path.Precedes) :
    (ofFiles inputDir suffix files).pairs.Pairwise fun first second =>
      first.expected.Precedes second.expected := by
  rw [ofFiles, List.pairwise_filterMap]
  refine ascending.imp ?_
  intro first second before pair paired other otherPaired
  rwa [Pair.expected_of_ofExpected? paired, Pair.expected_of_ofExpected? otherPaired]

theorem mem_pairs_iff (tree : disk.WellFormed)
    (complete : ∀ path, path ∈ files ↔
      ∃ stem extension, IsPythonFile disk location expectedDir path stem extension)
    (pair : Pair) :
    pair ∈ (ofFiles inputDir suffix files).pairs ↔
      ∃ stem extension, IsPair disk location expectedDir inputDir suffix pair stem extension := by
  rw [ofFiles, List.mem_filterMap]
  constructor
  · rintro ⟨path, member, paired⟩
    obtain ⟨stem, extension, file⟩ := (complete path).mp member
    exact ⟨stem, extension, ((file.ofExpected?_eq_some_iff tree).mp paired).2⟩
  · rintro ⟨stem, extension, isPair⟩
    exact ⟨pair.expected, (complete _).mpr ⟨stem, extension, isPair.file⟩,
      (isPair.file.ofExpected?_eq_some_iff tree).mpr ⟨rfl, isPair⟩⟩

theorem mem_unpaired_iff (tree : disk.WellFormed)
    (complete : ∀ path, path ∈ files ↔
      ∃ stem extension, IsPythonFile disk location expectedDir path stem extension)
    (path : Path) :
    path ∈ (ofFiles inputDir suffix files).unpaired ↔
      ∃ stem extension, IsPythonFile disk location expectedDir path stem extension ∧
        ¬∃ case, case ≠ [] ∧ stem = Text.encode (case ++ suffix) := by
  rw [ofFiles, List.mem_filter, complete, Option.isNone_iff_eq_none]
  constructor
  · rintro ⟨⟨stem, extension, file⟩, single⟩
    exact ⟨stem, extension, file, (file.ofExpected?_eq_none_iff tree).mp single⟩
  · rintro ⟨stem, extension, file, uncased⟩
    exact ⟨⟨stem, extension, file⟩, (file.ofExpected?_eq_none_iff tree).mpr uncased⟩

theorem isPairing_ofFiles (tree : disk.WellFormed)
    (complete : ∀ path, path ∈ files ↔
      ∃ stem extension, IsPythonFile disk location expectedDir path stem extension)
    (ascending : files.Pairwise Path.Precedes) :
    IsPairing disk location expectedDir inputDir suffix (ofFiles inputDir suffix files) where
  mem_pairs := mem_pairs_iff tree complete
  mem_unpaired := mem_unpaired_iff tree complete
  divided := by
    intro path stem extension file
    exact mem_map_expected_iff ((complete path).mpr ⟨stem, extension, file⟩)
  pairs_ascend := pairwise_pairs ascending
  unpaired_ascend := ascending.filter _
  inputs_differ := by
    refine (pairwise_pairs ascending).imp_of_mem ?_
    intro first second isFirst isSecond before inputs
    obtain ⟨_, _, isPair⟩ := (mem_pairs_iff tree complete first).mp isFirst
    obtain ⟨_, _, isOther⟩ := (mem_pairs_iff tree complete second).mp isSecond
    rw [isPair.expected_eq tree isOther inputs] at before
    exact Path.not_precedes_self _ before
  renamed := by
    intro suffixed pair member
    obtain ⟨_, _, isPair⟩ := (mem_pairs_iff tree complete pair).mp member
    exact isPair.fileName?_ne tree suffixed

end OfFiles

/-- In whichever order a folder lists them, its Python files are divided between
pairs and files without a pair, and the problems are those of the files without a
pair and of the pairs without an input. -/
theorem discover_divides_python_files {disk : Disk} {location : Location} {expectedDir : Path}
    (inputDir : Path) (suffix : Text) (tree : disk.WellFormed)
    (resolved : disk.resolve expectedDir = .ok (location, .folder)) :
    ∃ pairing,
      IsPairing disk location expectedDir inputDir suffix pairing ∧
      Accounts disk pairing (pairing.problems disk suffix) ∧
      ∀ other : Disk, SameTree disk other →
        discover other expectedDir inputDir suffix = .ok pairing := by
  have complete (path : Path) : path ∈ sortBy Path.compare (listed disk location expectedDir) ↔
      ∃ stem extension, IsPythonFile disk location expectedDir path stem extension :=
    (perm_sortBy _).mem_iff.trans (mem_listed_iff tree resolved)
  refine ⟨_, isPairing_ofFiles tree complete (pairwise_sortBy_listed tree),
    accounts_problems .., ?_⟩
  intro other same
  rw [same.resolve_eq tree] at resolved
  rw [discover_eq_ok resolved, sortBy_listed_of_sameTree tree same]

/-- A folder with one file of each sort. -/
theorem pairing_of_two_files :
    let disk : Disk :=
      ⟨[([Text.encode "e"], .folder), ([Text.encode "e", Text.encode "b.py"], .file []),
        ([Text.encode "e", Text.encode "a_q.py"], .file [])], []⟩
    disk.WellFormed ∧ disk.resolve (Path.ofText "e") = .ok ([Text.encode "e"], .folder) ∧
      ∃ pairing, discover disk (Path.ofText "e") (Path.ofText "t") "_q" = .ok pairing ∧
        ⟨"a", Path.ofText "t/a.py", Path.ofText "e/a_q.py"⟩ ∈ pairing.pairs ∧
        Path.ofText "e/b.py" ∈ pairing.unpaired := by
  intro disk
  have tree : disk.WellFormed := by decide
  have resolved : disk.resolve (Path.ofText "e") = .ok ([Text.encode "e"], .folder) := rfl
  obtain ⟨pairing, isPairing, -, discovered⟩ :=
    discover_divides_python_files (Path.ofText "t") "_q" tree resolved
  refine ⟨tree, resolved, pairing, discovered disk ⟨.refl _, rfl⟩, ?_, ?_⟩
  · refine (isPairing.mem_pairs _).mpr ⟨Text.encode "a_q", "py", ?_, by decide, by decide, rfl⟩
    exact ⟨Text.encode "a_q.py", ⟨by decide, by decide, .inl rfl⟩, ⟨[], rfl⟩, rfl, by decide⟩
  · refine (isPairing.mem_unpaired _).mpr ⟨Text.encode "b", "py", ?_, ?_⟩
    · exact ⟨Text.encode "b.py", ⟨by decide, by decide, .inl rfl⟩, ⟨[], rfl⟩, rfl, by decide⟩
    · rintro ⟨case, -, same⟩
      have lengths := congrArg List.length (Text.encode_injective same)
      simp at lengths

/-- A file whose path is too long is in neither list: the path of the folder can be
followed, but not that of the file in it. -/
theorem long_path_is_left_out :
    let folder : Path := ⟨Text.encode "e" ++ List.replicate 4089 Path.slash⟩
    let name := Text.encode "case_quickfixed.py"
    let disk : Disk :=
      ⟨[([Text.encode "e"], .folder), ([Text.encode "e", name], .file [])], []⟩
    disk.WellFormed ∧
      disk.resolve folder = .ok ([Text.encode "e"], .folder) ∧
      disk.entry? [Text.encode "e", name] = some (.file []) ∧
      IsPythonName name (Text.encode "case_quickfixed") "py" ∧
      discover disk folder (Path.ofText "t") "_quickfixed" = .ok ⟨[], []⟩ := by
  intro folder name disk
  have tree : disk.WellFormed := by decide
  have resolved : disk.resolve folder = .ok ([Text.encode "e"], .folder) :=
    @resolve_append_slashes disk ⟨Text.encode "e"⟩ _ 4088 rfl (by decide)
  refine ⟨tree, resolved, rfl, ⟨by decide, by decide, .inl rfl⟩, ?_⟩
  have isName : IsFileName name := by decide
  have unreached : disk.isFile (folder.join ⟨name⟩) = false := by
    rw [Bool.eq_false_iff]
    intro reached
    obtain ⟨short, -⟩ := (isFile_join_iff resolved isName).mp reached
    have long : folder.bytes.length + name.length ≤ (folder.join ⟨name⟩).bytes.length :=
      Path.length_join_le isName.closed (List.append_ne_nil_of_left_ne_nil (by decide) _)
    have lengths : folder.bytes.length + name.length = 4108 := by
      rw [List.length_append, List.length_replicate]
      decide
    rw [longestPath] at short
    omega
  have nothing : listed disk [Text.encode "e"] folder = [] := by
    have names : disk.namesIn [Text.encode "e"] = [name] := by decide
    rw [listed, names, List.map_singleton, List.filter_singleton, unreached, Bool.false_and,
      cond_false]
  rw [discover_eq_ok resolved, nothing, sortBy, List.mergeSort_nil]
  rfl

end Pairing

end GoldenCheck
