import GoldenCheck.Proofs.Glob.Reading
import GoldenCheck.Proofs.Selection.Descent

/-!
# Selecting by patterns

Patterns are resolved one after the other.  The first one that fails decides what the
failure is; otherwise everything they select is put together, and of paths with the same
components only the first is kept.  Below a folder that a pattern stands for, exactly the
Python files are selected, in ascending order.
-/

namespace GoldenCheck.Selection

open Disk

/-! ## First occurrences -/

/-- A path stands at a place of a list for the first time, however it is written. -/
def FirstAt (paths : List Path) (index : Nat) (path : Path) : Prop :=
  paths[index]? = some path ∧
    ∀ earlier ∈ paths.take index, earlier.components ≠ path.components

theorem FirstAt.lt_length {paths : List Path} {index : Nat} {path : Path}
    (first : FirstAt paths index path) : index < paths.length :=
  (List.getElem?_eq_some_iff.mp first.1).1

/-- One path more stands for the first time if none was the same before. -/
theorem firstAt_concat_iff {paths : List Path} {last path : Path} {index : Nat} :
    FirstAt (paths ++ [last]) index path ↔
      FirstAt paths index path ∨
        (index = paths.length ∧ path = last ∧
          ∀ earlier ∈ paths, earlier.components ≠ last.components) := by
  rcases Nat.lt_trichotomy index paths.length with inside | rfl | beyond
  · have elsewhere : index ≠ paths.length := Nat.ne_of_lt inside
    rw [FirstAt, FirstAt, List.getElem?_append_left inside,
      List.take_append_of_le_length (Nat.le_of_lt inside)]
    simp [elsewhere]
  · have ended : ¬FirstAt paths paths.length path :=
      fun first => Nat.lt_irrefl _ first.lt_length
    rw [FirstAt, List.getElem?_concat_length, List.take_left, Option.some.injEq]
    constructor
    · rintro ⟨rfl, fresh⟩
      exact .inr ⟨rfl, rfl, fresh⟩
    · rintro (first | ⟨-, rfl, fresh⟩)
      · exact absurd first ended
      · exact ⟨rfl, fresh⟩
  · constructor
    · intro first
      have inside := first.lt_length
      rw [List.length_append, List.length_singleton] at inside
      omega
    · rintro (first | ⟨rfl, -⟩)
      · exact absurd first.lt_length (Nat.lt_asymm beyond)
      · exact absurd beyond (Nat.lt_irrefl _)

/-- What is left of a list if every path is kept at its first occurrence only. -/
def KeepsFirst (paths kept : List Path) : Prop :=
  ∃ places : List Nat, places.Pairwise (· < ·) ∧
    (∀ index, index ∈ places ↔ ∃ path, FirstAt paths index path) ∧
    List.Forall₂ (FirstAt paths) places kept

/-- A path at the end is kept if none was the same before. -/
theorem distinct_concat (paths : List Path) (path : Path) :
    distinct (paths ++ [path]) =
      if (distinct paths).any path.same then distinct paths else distinct paths ++ [path] := by
  rw [distinct, List.foldl_append]
  rfl

theorem any_same_iff {paths : List Path} {path : Path} :
    paths.any path.same = true ↔ ∃ other ∈ paths, other.components = path.components := by
  rw [List.any_eq_true]
  simp only [Path.same, beq_iff_eq, eq_comm (a := path.components)]

/-- No path is lost, but for the way in which it is written. -/
theorem exists_mem_distinct_iff {paths : List Path} {components : List Path.Component} :
    (∃ kept ∈ distinct paths, kept.components = components) ↔
      ∃ path ∈ paths, path.components = components := by
  induction paths using List.reverseRecOn with
  | nil => rfl
  | append_singleton paths last ih =>
      have either (front : List Path) : (∃ path ∈ front ++ [last], path.components = components) ↔
          (∃ path ∈ front, path.components = components) ∨ last.components = components := by
        simp [or_and_right, exists_or]
      rw [distinct_concat, either]
      split
      · rename_i known
        rw [ih, iff_self_or, ← ih]
        rintro rfl
        exact any_same_iff.mp known
      · rw [either, ih]

/-- No two paths that are kept are the same. -/
theorem pairwise_distinct (paths : List Path) :
    (distinct paths).Pairwise fun first second => first.components ≠ second.components := by
  induction paths using List.reverseRecOn with
  | nil => exact .nil
  | append_singleton paths path ih =>
      rw [distinct_concat]
      split
      · exact ih
      · rename_i fresh
        refine List.pairwise_append.mpr ⟨ih, List.pairwise_singleton _ _, ?_⟩
        intro first isKept second isLast same
        obtain rfl := List.mem_singleton.mp isLast
        exact fresh (any_same_iff.mpr ⟨first, isKept, same⟩)

theorem keepsFirst_distinct (paths : List Path) : KeepsFirst paths (distinct paths) := by
  induction paths using List.reverseRecOn with
  | nil => exact ⟨[], .nil, by simp [FirstAt], .nil⟩
  | append_singleton paths path ih =>
      obtain ⟨places, ascending, complete, found⟩ := ih
      have foundAgain : List.Forall₂ (FirstAt (paths ++ [path])) places (distinct paths) :=
        found.imp fun index kept first => firstAt_concat_iff.mpr (.inl first)
      rw [distinct_concat]
      split
      · rename_i known
        obtain ⟨earlier, member, same⟩ := exists_mem_distinct_iff.mp (any_same_iff.mp known)
        refine ⟨places, ascending, ?_, foundAgain⟩
        intro index
        rw [complete]
        apply exists_congr
        intro kept
        rw [firstAt_concat_iff]
        constructor
        · exact .inl
        · rintro (first | ⟨-, -, fresh⟩)
          · exact first
          · exact absurd same (fresh earlier member)
      · rename_i unknown
        have fresh : ∀ earlier ∈ paths, earlier.components ≠ path.components := by
          intro earlier member same
          exact unknown (any_same_iff.mpr (exists_mem_distinct_iff.mpr ⟨earlier, member, same⟩))
        have inside (index : Nat) (member : index ∈ places) : index < paths.length := by
          obtain ⟨kept, first⟩ := (complete index).mp member
          exact first.lt_length
        refine ⟨places ++ [paths.length], ?_, ?_, ?_⟩
        · refine List.pairwise_append.mpr ⟨ascending, List.pairwise_singleton _ _, ?_⟩
          simpa using inside
        · intro index
          rw [List.mem_append, List.mem_singleton, complete]
          simp only [firstAt_concat_iff, exists_or]
          apply or_congr_right
          constructor
          · rintro rfl
            exact ⟨path, rfl, rfl, fresh⟩
          · rintro ⟨_, atEnd, -⟩
            exact atEnd
        · exact List.rel_append foundAgain
            (.cons (firstAt_concat_iff.mpr (.inr ⟨rfl, rfl, fresh⟩)) .nil)

/-! ## One pattern -/

/-- What a pattern selects: what each of the paths that it stands for selects, and at
least one file. -/
def Selects (disk : Disk) (pattern : Text) (files : List Path) : Prop :=
  ∃ plan paths, Glob.Plan.parse pattern = .ok plan ∧ Glob.paths disk plan = .ok paths ∧
    files = paths.flatMap (filesAt disk) ∧ files ≠ []

/-- Why a pattern fails: it is malformed, it comes to a folder that it has to read and
whose path is too long, or nothing that it stands for selects a file. -/
inductive Fails (disk : Disk) (pattern : Text) : Failure → Prop where
  | malformed {cause : Glob.PatternError} (parsed : Glob.Plan.parse pattern = .error cause) :
      Fails disk pattern (.pattern pattern cause)
  | unreadable {plan : Glob.Plan} {cause : Glob.ReadError}
      (parsed : Glob.Plan.parse pattern = .ok plan) (stopped : Glob.paths disk plan = .error cause)
      (tooLong : cause.IsTooLong) : Fails disk pattern (.expansion pattern cause)
  | empty {plan : Glob.Plan} {paths : List Path} (parsed : Glob.Plan.parse pattern = .ok plan)
      (expanded : Glob.paths disk plan = .ok paths)
      (nothing : ∀ path ∈ paths, filesAt disk path = []) : Fails disk pattern (.noMatch pattern)

/-- A pattern selects something or fails. -/
theorem filesMatching_cases {disk : Disk} (tree : disk.IsTree) (pattern : Text) :
    (∃ files, filesMatching disk pattern = .ok files ∧ Selects disk pattern files) ∨
      ∃ failure, filesMatching disk pattern = .error failure ∧ Fails disk pattern failure := by
  rw [filesMatching]
  cases parsed : Glob.Plan.parse pattern with
  | error cause => exact .inr ⟨_, rfl, .malformed parsed⟩
  | ok plan =>
      change (∃ files, (failWith (.expansion pattern) (Glob.paths disk plan) >>= _) = _ ∧ _) ∨
        ∃ failure, (failWith (.expansion pattern) (Glob.paths disk plan) >>= _) = _ ∧ _
      cases expanded : Glob.paths disk plan with
      | error cause =>
          exact .inr ⟨_, rfl, .unreadable parsed expanded (Glob.isTooLong_of_paths tree expanded)⟩
      | ok paths =>
          by_cases nothing : paths.flatMap (filesAt disk) = []
          · refine .inr ⟨_, if_pos (List.isEmpty_iff.mpr nothing), .empty parsed expanded ?_⟩
            exact List.flatMap_eq_nil_iff.mp nothing
          · refine .inl ⟨_, if_neg (mt List.isEmpty_iff.mp nothing), ?_⟩
            exact ⟨plan, paths, parsed, expanded, rfl, nothing⟩

/-! ## All patterns -/

/-- The first pattern that fails decides what the failure is.  If none does, everything
that they select is put together. -/
theorem files_cases {disk : Disk} (tree : disk.IsTree) (patterns : List Text) :
    (∃ front pattern back results failure, patterns = front ++ pattern :: back ∧
      List.Forall₂ (Selects disk) front results ∧ Fails disk pattern failure ∧
      files disk patterns = .error failure) ∨
    ∃ results, List.Forall₂ (Selects disk) patterns results ∧
      files disk patterns = .ok (distinct results.flatten) := by
  have selects {pattern : Text} {selected : List Path}
      (succeeded : filesMatching disk pattern = .ok selected) : Selects disk pattern selected := by
    rcases filesMatching_cases tree pattern with ⟨_, same, selects⟩ | ⟨_, failed, -⟩
    · obtain rfl := Except.ok.inj (same.symm.trans succeeded)
      exact selects
    · rw [failed] at succeeded
      contradiction
  rw [files]
  cases resolved : patterns.mapM (filesMatching disk) with
  | error failure =>
      left
      obtain ⟨front, pattern, back, results, split, before, failed⟩ := mapM_eq_error_iff.mp resolved
      rcases filesMatching_cases tree pattern with ⟨_, succeeded, -⟩ | ⟨_, same, fails⟩
      · rw [succeeded] at failed
        contradiction
      · obtain rfl := Except.error.inj (same.symm.trans failed)
        exact ⟨front, pattern, back, results, _, split, before.imp fun _ _ => selects, fails, rfl⟩
  | ok results =>
      right
      exact ⟨results, (mapM_eq_ok_iff.mp resolved).imp fun _ _ => selects, rfl⟩

/-- A folder selects the Python files at any depth below it and nothing else, in strictly
ascending order, whatever order each folder lists its names in; anything else selects
itself if it is a Python file.  Patterns fail as the first of them does that fails, or
select what each of them selects, with every path kept at its first occurrence only. -/
theorem selection_is_exact_and_distinct {disk : Disk} (tree : disk.IsTree) :
    (∀ folder location, disk.resolve folder = .ok (location, .folder) →
      ∃ selected : List Path,
        (∀ path, path ∈ selected ↔ IsSelected disk folder location path) ∧
        selected.Pairwise Path.Precedes ∧
        ∀ other, SameTree disk other → filesAt other folder = selected) ∧
    (∀ path, (∀ location, disk.resolve path ≠ .ok (location, .folder)) →
      filesAt disk path = selfIfPython path) ∧
    ∀ patterns,
      (∃ front pattern back results failure, patterns = front ++ pattern :: back ∧
        List.Forall₂ (Selects disk) front results ∧ Fails disk pattern failure ∧
        files disk patterns = .error failure) ∨
      ∃ results kept, List.Forall₂ (Selects disk) patterns results ∧
        KeepsFirst results.flatten kept ∧
        (kept.Pairwise fun first second => first.components ≠ second.components) ∧
        files disk patterns = .ok kept := by
  refine ⟨?_, ?_, ?_⟩
  · intro folder location resolved
    refine ⟨filesAt disk folder, fun path => mem_filesAt_iff tree resolved,
      pairwise_filesWithin tree.toWellFormed _ folder, ?_⟩
    intro other same
    exact (filesWithin_of_sameTree tree.toWellFormed same _ folder).symm
  · intro path noFolder
    exact filesWithin_of_not_folder noFolder _
  · intro patterns
    rcases files_cases tree patterns with failed | ⟨results, selected, succeeded⟩
    · exact .inl failed
    · exact .inr ⟨results, _, selected, keepsFirst_distinct _, pairwise_distinct _, succeeded⟩

/-- A folder next to a folder that is named like a Python file, and a name that is all
extension. -/
theorem selection_among_namesakes :
    let folder := Text.encode "e"
    let disk : Disk := ⟨[([folder], .folder), ([folder, Text.encode "a.py"], .folder),
      ([folder, Text.encode "a.py", Text.encode "b.pyi"], .file []),
      ([folder, Text.encode "a"], .folder),
      ([folder, Text.encode "a", Text.encode "z.py"], .file []),
      ([folder, Text.encode ".py"], .file [])], []⟩
    disk.IsTree ∧ disk.resolve (Path.ofText "e") = .ok ([folder], .folder) ∧
      Path.ofText "e/a/z.py" ∈ filesAt disk (Path.ofText "e") ∧
      Path.ofText "e/a.py/b.pyi" ∈ filesAt disk (Path.ofText "e") ∧
      (filesAt disk (Path.ofText "e")).Pairwise Path.Precedes ∧
      ∃ cause, files disk ["[", "e"] = .error (.pattern "[" cause) := by
  intro folder disk
  have tree : disk.IsTree := by decide +kernel
  have resolved : disk.resolve (Path.ofText "e") = .ok ([folder], .folder) := by decide +kernel
  obtain ⟨inFolder, -, byPatterns⟩ := selection_is_exact_and_distinct tree
  obtain ⟨selected, member, ascending, anyOrder⟩ := inFolder _ _ resolved
  obtain rfl := anyOrder disk ⟨.refl _, rfl⟩
  refine ⟨tree, resolved, ?_, ?_, ascending, ?_⟩
  · exact (member _).mpr ⟨[Text.encode "a"], Text.encode "z.py", Text.encode "z", "py", .file [],
      by decide, ⟨rfl, by decide, .inl rfl⟩, by decide, by decide, by simp⟩
  · exact (member _).mpr ⟨[Text.encode "a.py"], Text.encode "b.pyi", Text.encode "b", "pyi",
      .file [], by decide, ⟨rfl, by decide, .inr rfl⟩, by decide, by decide, by simp⟩
  · have malformed : Glob.Plan.parse "[" = .error ⟨0, .range⟩ := by cbv
    have unparsed (plan : Glob.Plan) : Glob.Plan.parse "[" ≠ .ok plan := by
      rw [malformed]
      simp
    have selectsNone (selected : List Path) : ¬Selects disk "[" selected := by
      rintro ⟨plan, _, parsed, -⟩
      exact unparsed plan parsed
    rcases byPatterns ["[", "e"] with failed | ⟨_, _, selects, -⟩
    · obtain ⟨front, pattern, _, _, _, split, before, fails, stopped⟩ := failed
      cases before with
      | nil =>
          obtain ⟨rfl, -⟩ := List.cons.inj split
          cases fails with
          | malformed _ => exact ⟨_, stopped⟩
          | unreadable parsed _ _ => exact absurd parsed (unparsed _)
          | empty parsed _ _ => exact absurd parsed (unparsed _)
      | cons selects _ =>
          obtain ⟨rfl, -⟩ := List.cons.inj split
          exact absurd selects (selectsNone _)
    · cases selects with
      | cons selects _ => exact absurd selects (selectsNone _)

/-- The pattern `**` fails if the path of some folder is too long. -/
theorem exists_files_eq_error {disk : Disk} {location below : Location}
    (resolved : disk.resolve Glob.here = .ok (location, .folder))
    (inside : (below, .folder) ∈ disk.below location)
    (long : longestPath < (Glob.placeBelow Glob.here below .folder).path.bytes.length) :
    ∃ cause, files disk ["**"] = .error (.expansion "**" cause) := by
  have parsed : Glob.Plan.parse "**" = .ok ⟨Glob.here, [[.anyFolders]], false⟩ := by cbv
  obtain ⟨cause, failed⟩ := Glob.exists_expand_eq_error resolved inside long false []
  refine ⟨cause, ?_⟩
  rw [files, List.mapM_cons, filesMatching, parsed]
  change (failWith _ (Glob.paths disk ⟨Glob.here, [[.anyFolders]], false⟩) >>= _ >>= _ >>= _) = _
  rw [Glob.paths, failed]
  rfl

/-- A folder whose path is too long is taken for a file, and the file in it is missed.
A pattern that has to read such a folder fails, although it is well formed. -/
theorem long_paths_hide_files :
    (let folder : Name := List.replicate 252 0x64
      let inner := Text.encode "x.py"
      let last := Text.encode "a.py"
      let disk : Disk :=
        ⟨[([folder], .folder), ([folder, inner], .folder), ([folder, inner, last], .file [])], []⟩
      let path : Path := ⟨(List.replicate 15 (folder ++ Text.encode "/../")).flatten ++ folder⟩
      disk.IsTree ∧ disk.resolve path = .ok ([folder], .folder) ∧
        disk.entry? [folder, inner] = some .folder ∧ path.joinAll [inner] ∈ filesAt disk path ∧
        disk.entry? [folder, inner, last] = some (.file []) ∧
        path.joinAll [inner, last] ∉ filesAt disk path) ∧
    (let folder : Name := List.replicate 255 0x64
      let disk : Disk :=
        ⟨(List.range 17).map fun depth => (List.replicate (depth + 1) folder, .folder), []⟩
      disk.IsTree ∧ ∃ cause, files disk ["**"] = .error (.expansion "**" cause)) := by
  constructor
  · intro folder inner last disk path
    have tree : disk.IsTree := by decide +kernel
    have resolved : disk.resolve path = .ok ([folder], .folder) := by decide +kernel
    have long : longestPath < (path.join ⟨inner⟩).bytes.length := by decide +kernel
    have isPython : IsPythonName inner (Text.encode "x") "py" := ⟨rfl, by decide, .inl rfl⟩
    have isFolder : disk.entry? [folder, inner] = some .folder := by decide +kernel
    have isFile : disk.entry? [folder, inner, last] = some (.file []) := by decide +kernel
    obtain ⟨taken, hidden⟩ := hides_of_long tree resolved ⟨_, _, isPython⟩ isFile long
    exact ⟨tree, resolved, isFolder, taken, isFile, hidden⟩
  · intro folder disk
    have tree : disk.IsTree := by decide +kernel
    have resolved : disk.resolve Glob.here = .ok ([], .folder) := by decide +kernel
    have found : disk.entry? ([] ++ List.replicate 17 folder) = some .folder := by decide +kernel
    have inside := tree.mem_below_iff.mpr ⟨List.cons_ne_nil _ _, found⟩
    exact ⟨tree, exists_files_eq_error resolved inside (by decide +kernel)⟩

end GoldenCheck.Selection
