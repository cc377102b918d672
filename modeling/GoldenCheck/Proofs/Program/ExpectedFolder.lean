import GoldenCheck.Program.Check
import GoldenCheck.Proofs.Selection

/-!
# Checking the expected folder

Without patterns a check is about the expected folder.  The path of the folder is taken
for a pattern.  So the Python files below the folder are checked if the path is plain,
and a folder with a wildcard in its name is passed over.
-/

namespace GoldenCheck.Program

open Disk

/-! ## Failures after the selection -/

theorem lintFiles_ne_noMatch (disk : Disk) (settings : Settings) (files : List Path)
    (written : Text) : (lintFiles disk settings files).2 ≠ .error (.noMatch written) := by
  induction files with
  | nil => simp [lintFiles]
  | cons path files ih =>
      rw [lintFiles, loadFixture]
      cases disk.readText path with
      | error cause => simp [failWith, Except.mapError, bind, Except.bind]
      | ok text =>
          change (lintFiles disk settings files).2.map _ ≠ _
          cases linted : (lintFiles disk settings files).2 with
          | error failure => simpa [Except.map, linted] using ih
          | ok problems => simp [Except.map]

theorem pairingProblems_ne_noMatch (disk : Disk) (settings : Settings) (written : Text) :
    pairingProblems disk settings ≠ .error (.noMatch written) := by
  rw [pairingProblems, Pairing.discover]
  cases Pairing.pythonFilesIn disk settings.fullExpectedDir <;>
    simp [failWith, Except.mapError, bind, Except.bind, pure, Except.pure]

theorem allProblems_ne_noMatch {disk : Disk} {settings : Settings} {checkPairs : Bool}
    {found : Except Failure (List Problem)} {written : Text}
    (linted : found ≠ .error (.noMatch written)) :
    allProblems disk settings checkPairs found ≠ .error (.noMatch written) := by
  cases found with
  | error failure => exact linted
  | ok problems =>
      cases checkPairs with
      | false => simp [allProblems, bind, Except.bind, pure, Except.pure]
      | true =>
          have paired := pairingProblems_ne_noMatch disk settings written
          change (pairingProblems disk settings >>= _) ≠ _
          cases found : pairingProblems disk settings with
          | error failure => simpa [found, bind, Except.bind] using paired
          | ok pairing => simp [bind, Except.bind, pure, Except.pure]

/-- Once fixtures are selected, a check does not fail for want of them. -/
theorem checkFiles_ne_noMatch (disk : Disk) (cores : Nat) (settings : Settings)
    (request : CheckRequest) (files : List Path) (written : Text) :
    (checkFiles disk cores settings request files).result ≠ .error (.noMatch written) := by
  have checked : allProblems disk settings request.checkPairs (lintFiles disk settings files).2 ≠
      .error (.noMatch written) :=
    allProblems_ne_noMatch (lintFiles_ne_noMatch disk settings files written)
  rw [checkFiles]
  dsimp only
  cases found : allProblems disk settings request.checkPairs (lintFiles disk settings files).2 with
  | error failure =>
      rw [found] at checked
      simpa [Outcome.failed] using checked
  | ok problems =>
      dsimp only
      rw [reportProblems]
      cases request.output with
      | none => simp
      | some path =>
          dsimp only
          cases disk.write path (Text.encode (Problem.report request.format problems)) <;>
            simp [failWith, Except.mapError, bind, Except.bind, pure, Except.pure, Outcome.failed]

/-! ## The expected folder -/

theorem patternsUnder_of_isEmpty {request : CheckRequest} (unasked : request.patterns = [])
    {settings : Settings} {text : Text} (named : settings.fullExpectedDir = Path.ofText text) :
    request.patternsUnder (settings.override request.overrides) = [text] := by
  have kept : (settings.override request.overrides).fullExpectedDir = settings.fullExpectedDir :=
    rfl
  rw [CheckRequest.patternsUnder, unasked, List.isEmpty_nil, if_pos rfl, kept, named,
    Path.display, Path.ofText, Text.decodeLossy_encode]

/-- Without patterns, a check takes the Python files at any depth below the expected
folder, each of them once, and fails for want of fixtures exactly if there are none.
The path of the folder must be plain. -/
theorem check_covers_expected_folder {disk : Disk} {location : Location} {settings : Settings}
    {request : CheckRequest} {text : Text} (cores : Nat) (tree : disk.IsTree)
    (unasked : request.patterns = []) (named : settings.fullExpectedDir = Path.ofText text)
    (resolved : disk.resolve settings.fullExpectedDir = .ok (location, .folder))
    (followable : Selection.Followable disk settings.fullExpectedDir location)
    (plain : Glob.IsPlain text) :
    (∃ files, Selection.Covers disk location files ∧
      request.run disk cores settings =
        if files.isEmpty then .failed disk [] (.noMatch text)
        else checkFiles disk cores (settings.override request.overrides) request files) ∧
    ((request.run disk cores settings).result = .error (.noMatch text) ↔
      ∀ place, ¬Selection.IsPythonBelow disk location place) := by
  rw [named] at resolved followable
  obtain ⟨files, covers, selected⟩ := Selection.files_of_plain tree plain resolved followable
  have run : request.run disk cores settings =
      if files.isEmpty then .failed disk [] (.noMatch text)
      else checkFiles disk cores (settings.override request.overrides) request files := by
    rw [CheckRequest.run, patternsUnder_of_isEmpty unasked named, selected]
    cases files.isEmpty <;> rfl
  refine ⟨⟨files, covers, run⟩, ?_⟩
  rw [run, ← covers.eq_nil_iff, ← List.isEmpty_iff]
  split
  · rename_i nothing
    simp [nothing, Outcome.failed]
  · rename_i something
    simp [something, checkFiles_ne_noMatch]

/-- A folder that is written with a `.` in front and a slash at the end. -/
theorem check_covers_folder_with_subfolder :
    let folder := Text.encode "expected"
    let disk : Disk := ⟨[([folder], .folder), ([folder, Text.encode "notes.txt"], .file []),
      ([folder, Text.encode "sub"], .folder),
      ([folder, Text.encode "sub", Text.encode "a.pyi"], .file [])], []⟩
    let settings := { Settings.defaults ⟨[]⟩ with expectedDir := Path.ofText "./expected/" }
    let request : CheckRequest := ⟨[], none, .text, none, none, none, false, false, 1⟩
    disk.IsTree ∧ Glob.IsPlain "./expected/" ∧
      disk.resolve settings.fullExpectedDir = .ok ([folder], .folder) ∧
      Selection.Followable disk settings.fullExpectedDir [folder] ∧
      (request.run disk 1 settings).result ≠ .error (.noMatch "./expected/") ∧
      ∃ files, files ≠ [] ∧ Selection.Covers disk [folder] files ∧
        request.run disk 1 settings = checkFiles disk 1 settings request files := by
  intro folder disk settings request
  have tree : disk.IsTree := by decide +kernel
  have plain : Glob.IsPlain "./expected/" := by decide +kernel
  have resolved : disk.resolve settings.fullExpectedDir = .ok ([folder], .folder) := by
    decide +kernel
  have followable : Selection.Followable disk settings.fullExpectedDir [folder] := by
    decide +kernel
  have isPython : Selection.IsPythonBelow disk [folder]
      [folder, Text.encode "sub", Text.encode "a.pyi"] :=
    ⟨[Text.encode "sub"], Text.encode "a.pyi", Text.encode "a", "pyi", [], rfl,
      ⟨rfl, by decide, .inr rfl⟩, rfl⟩
  obtain ⟨⟨files, covers, run⟩, fails⟩ := @check_covers_expected_folder disk [folder] settings
    request "./expected/" 1 tree rfl rfl resolved followable plain
  have something : files ≠ [] := fun nothing => covers.eq_nil_iff.mp nothing _ isPython
  refine ⟨tree, plain, resolved, followable, fun failed => fails.mp failed _ isPython, files,
    something, covers, ?_⟩
  rw [run, if_neg (by simpa using something)]
  rfl

/-- A folder whose name has brackets is taken for the folders that match it. -/
theorem bracketed_folder_is_passed_over :
    let folder := Text.encode "e[1]"
    let disk : Disk := ⟨[([folder], .folder), ([folder, Text.encode "a.py"], .file [])], []⟩
    let settings := { Settings.defaults ⟨[]⟩ with expectedDir := Path.ofText "e[1]" }
    let request : CheckRequest := ⟨[], none, .text, none, none, none, false, false, 1⟩
    disk.IsTree ∧ disk.resolve settings.fullExpectedDir = .ok ([folder], .folder) ∧
      Selection.IsPythonBelow disk [folder] [folder, Text.encode "a.py"] ∧
      (request.run disk 1 settings).result = .error (.noMatch "e[1]") := by
  intro folder disk settings request
  refine ⟨by decide +kernel, by decide +kernel, ?_, ?_⟩
  · exact ⟨[], Text.encode "a.py", Text.encode "a", "py", [], rfl, ⟨rfl, by decide, .inl rfl⟩, rfl⟩
  · have planned : Glob.Plan.parse "e[1]" =
        .ok ⟨Glob.here, [[.char 'e', .inside [('1', '1')]]], false⟩ := by cbv
    have isFolder : disk.isFolder Glob.here = true := by decide +kernel
    have opened : Glob.openFolder disk Glob.here = .ok [] := rfl
    have listed : Glob.sortedNames disk [] = [folder] := List.mergeSort_singleton _
    have different : Glob.matchesBytes [.char 'e', .inside [('1', '1')]] folder = false := by
      decide +kernel
    have nothing : Glob.paths disk ⟨Glob.here, [[.char 'e', .inside [('1', '1')]]], false⟩ =
        .ok [] := by
      simp [Glob.paths, Glob.expand, Glob.literal?, Glob.specialSteps, Glob.Place.ofPath, isFolder,
        opened, listed, different, bind, Except.bind, pure, Except.pure]
    have unmatched : Selection.files disk ["e[1]"] = .error (.noMatch "e[1]") := by
      rw [Selection.files, List.mapM_cons, Selection.filesMatching, planned]
      simp only [failWith, Except.mapError, bind, Except.bind, nothing]
      rfl
    have named : settings.fullExpectedDir = Path.ofText "e[1]" := rfl
    rw [CheckRequest.run, patternsUnder_of_isEmpty rfl named, unmatched]
    rfl

end GoldenCheck.Program
