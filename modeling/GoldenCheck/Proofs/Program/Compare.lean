import GoldenCheck.Program.Compare
import GoldenCheck.Proofs.Disk.Access
import GoldenCheck.Proofs.Fixture.RoundTrip
import GoldenCheck.Proofs.Mismatch

/-!
# What a comparison does to the disk

A golden file is read as a fixture and rendered again before it is compared, which
gives back its text.  So the tool that ignore comments name plays no part, and a
comparison depends only on the two texts and the mode.  The relation `Runs` says
what a run may do and when; all that is said of runs follows from it.

Without leave to replace the golden file nothing on the disk changes.  With it, a
run that succeeds leaves a golden file that agrees with the actual output, and
repeating the run finds nothing left to do.
-/

namespace GoldenCheck

open Disk

/-- A golden file holds another text, or there is none: an update writes the text. -/
theorem Golden.update_eq_write {disk : Disk} {path : Path} {text : Text}
    (stale : disk.isFile path = false ∨ ∃ golden, disk.HoldsText path golden ∧ golden ≠ text) :
    update disk path text = (writeText disk path text).map fun after => ⟨after, true⟩ := by
  have written : (writeText disk path text >>= fun after => pure ⟨after, true⟩) =
      (writeText disk path text).map fun after => (⟨after, true⟩ : Update) := by
    cases writeText disk path text <;> rfl
  rw [← written, update]
  rcases stale with missing | ⟨golden, holds, differ⟩
  · simp [missing]
  · have read : readText disk path = .ok golden := by
      rw [readText, readText_eq_ok_iff.mpr holds]
      rfl
    simp [holds.isFile, read, differ, bind, Except.bind, pure, Except.pure]

namespace Program

namespace Outcome

@[simp]
theorem result_clean (disk : Disk) (notices : List Notice) :
    (clean disk notices).result = .ok .clean :=
  rfl

@[simp]
theorem result_failed (disk : Disk) (notices : List Notice) (failure : Failure) :
    (failed disk notices failure).result = .error failure :=
  rfl

end Outcome

/-! ## The golden file as a text -/

/-- The mode of a comparison: that of the request, or else that of the settings. -/
def CompareRequest.modeUnder (request : CompareRequest) (settings : Settings) : CompareMode :=
  request.mode.getD settings.compareMode

/-- A comparison that takes a golden file for the text that it holds. -/
def CompareRequest.runOnTexts (disk : Disk) (mode : CompareMode) (request : CompareRequest) :
    Outcome :=
  match disk.readText request.actual with
  | .error cause => .failed disk [] (.reading request.actual cause)
  | .ok actual =>
      if request.update && !disk.isFile request.expected then
        replaceGolden disk request actual
      else
        match disk.readText request.expected with
        | .error cause => .failed disk [] (.reading request.expected cause)
        | .ok golden =>
            match Diff.firstMismatch mode golden actual with
            | none => .clean disk [matchesNotice request.actual]
            | some mismatch =>
                if request.update then
                  replaceGolden disk request actual
                else
                  { result := .ok .problems
                    output := []
                    notices := [Notice.problem (mismatchProblem request mismatch)]
                    disk := disk }

/-- Reading the golden file as a fixture makes no difference. -/
theorem CompareRequest.run_eq_runOnTexts (disk : Disk) (settings : Settings)
    (request : CompareRequest) :
    request.run disk settings = request.runOnTexts disk (request.modeUnder settings) := by
  rw [run, runOnTexts, Golden.readText]
  cases disk.readText request.actual with
  | error cause => rfl
  | ok actual =>
      dsimp only [failWith, Except.mapError]
      split
      · rfl
      · rw [loadFixture]
        cases disk.readText request.expected with
        | error cause => rfl
        | ok golden =>
            change compareGolden disk _ request (Fixture.parse _ _ golden) actual = _
            rw [compareGolden, Fixture.render_parse]
            rfl

/-! ## What a run may do -/

/-- What a run may do and when. -/
inductive Runs (disk : Disk) (mode : CompareMode) (request : CompareRequest) : Outcome → Prop where
  | unreadableActual {failure : Failure}
      (unreadable : ¬∃ text, disk.HoldsText request.actual text) :
      Runs disk mode request (.failed disk [] failure)
  | unreadableGolden {failure : Failure} {text : Text}
      (actual : disk.HoldsText request.actual text)
      (unreadable : ¬∃ golden, disk.HoldsText request.expected golden)
      (present : request.update = true → disk.isFile request.expected = true) :
      Runs disk mode request (.failed disk [] failure)
  | agrees {golden text : Text}
      (expected : disk.HoldsText request.expected golden)
      (actual : disk.HoldsText request.actual text)
      (agree : Diff.agree mode golden text = true) :
      Runs disk mode request (.clean disk [matchesNotice request.actual])
  | differs {golden text : Text} {notices : List Notice}
      (keeps : request.update = false)
      (expected : disk.HoldsText request.expected golden)
      (actual : disk.HoldsText request.actual text)
      (disagree : ¬Diff.agree mode golden text = true) :
      Runs disk mode request ⟨.ok .problems, [], notices, disk⟩
  | replaces {text : Text} {after : Disk} {notices : List Notice}
      (updates : request.update = true)
      (actual : disk.HoldsText request.actual text)
      (stale : disk.isFile request.expected = false ∨
        ∃ golden, disk.HoldsText request.expected golden ∧ ¬Diff.agree mode golden text = true)
      (written : disk.write request.expected (Text.encode text) = .ok after) :
      Runs disk mode request (.clean after notices)
  | cannotReplace {text : Text} {cause : FileError} {failure : Failure}
      (updates : request.update = true)
      (actual : disk.HoldsText request.actual text)
      (stale : disk.isFile request.expected = false ∨
        ∃ golden, disk.HoldsText request.expected golden ∧ ¬Diff.agree mode golden text = true)
      (unwritten : disk.write request.expected (Text.encode text) = .error cause) :
      Runs disk mode request (.failed disk [] failure)

theorem Runs.replaceGolden {disk : Disk} {mode : CompareMode} {request : CompareRequest}
    {text : Text} (updates : request.update = true)
    (actual : disk.HoldsText request.actual text)
    (stale : disk.isFile request.expected = false ∨
      ∃ golden, disk.HoldsText request.expected golden ∧ ¬Diff.agree mode golden text = true) :
    Runs disk mode request (replaceGolden disk request text) := by
  have other : disk.isFile request.expected = false ∨
      ∃ golden, disk.HoldsText request.expected golden ∧ golden ≠ text := by
    rcases stale with missing | ⟨golden, expected, disagree⟩
    · exact .inl missing
    · refine .inr ⟨golden, expected, ?_⟩
      rintro rfl
      exact disagree (Diff.agree_iff.mpr rfl)
  rw [Program.replaceGolden, Golden.update_eq_write other, Golden.writeText]
  cases written : disk.write request.expected (Text.encode text) with
  | error cause => exact .cannotReplace updates actual stale written
  | ok after => exact .replaces updates actual stale written

/-- Every run does one of these things. -/
theorem runs_run (disk : Disk) (settings : Settings) (request : CompareRequest) :
    Runs disk (request.modeUnder settings) request (request.run disk settings) := by
  rw [CompareRequest.run_eq_runOnTexts, CompareRequest.runOnTexts]
  cases readActual : disk.readText request.actual with
  | error cause =>
      apply Runs.unreadableActual
      rintro ⟨text, actual⟩
      rw [readText_eq_ok_iff.mpr actual] at readActual
      contradiction
  | ok text =>
      have actual := readText_eq_ok_iff.mp readActual
      dsimp only
      split
      · rename_i missing
        rw [Bool.and_eq_true, Bool.not_eq_true'] at missing
        exact Runs.replaceGolden missing.1 actual (.inl missing.2)
      · rename_i present
        cases readExpected : disk.readText request.expected with
        | error cause =>
            apply Runs.unreadableGolden actual
            · rintro ⟨golden, expected⟩
              rw [readText_eq_ok_iff.mpr expected] at readExpected
              contradiction
            · intro updates
              simpa [updates] using present
        | ok golden =>
            have expected := readText_eq_ok_iff.mp readExpected
            dsimp only
            cases found : Diff.firstMismatch (request.modeUnder settings) golden text with
            | none =>
                have agree := Diff.agree_iff.mpr (Diff.firstMismatch_eq_none_iff.mp found)
                exact .agrees expected actual agree
            | some mismatch =>
                have disagree : ¬Diff.agree (request.modeUnder settings) golden text = true := by
                  rw [Diff.agree_iff, ← Diff.firstMismatch_eq_none_iff, found]
                  simp
                dsimp only
                split
                · rename_i updates
                  exact Runs.replaceGolden updates actual (.inr ⟨golden, expected, disagree⟩)
                · rename_i keeps
                  exact .differs (by simpa using keeps) expected actual disagree

/-! ## What follows for the disk -/

/-- The golden file and the actual output hold texts that agree. -/
def FilesAgree (disk : Disk) (mode : CompareMode) (request : CompareRequest) : Prop :=
  ∃ golden text, disk.HoldsText request.expected golden ∧
    disk.HoldsText request.actual text ∧ Diff.agree mode golden text = true

/-- A run that failed and left the disk as it was. -/
structure Refused (disk : Disk) (outcome : Outcome) : Prop where
  failed : ∃ failure, outcome.result = .error failure
  unchanged : outcome.disk = disk

/-- What a run does that may not replace the golden file. -/
structure OnlyCompares (disk : Disk) (mode : CompareMode) (request : CompareRequest)
    (outcome : Outcome) : Prop where
  clean_iff : outcome.result = .ok .clean ↔ FilesAgree disk mode request
  unchanged : outcome.disk = disk

/-- What a run does that may replace the golden file.  The same run on the disk that
it leaves behind has the outcome `again`. -/
structure Updates (disk : Disk) (mode : CompareMode) (request : CompareRequest)
    (outcome again : Outcome) : Prop where
  not_problems : outcome.result ≠ .ok .problems
  clean_iff : outcome.result = .ok .clean ↔
    FilesAgree disk mode request ∨
      ∃ text after, disk.HoldsText request.actual text ∧
        (disk.isFile request.expected = false ∨
          ∃ golden, disk.HoldsText request.expected golden) ∧
        disk.write request.expected (Text.encode text) = .ok after
  agrees : outcome.result = .ok .clean →
    ∃ golden text, outcome.disk.HoldsText request.expected golden ∧
      disk.HoldsText request.actual text ∧ Diff.agree mode golden text = true
  identical : outcome.result = .ok .clean → mode = .exact →
    outcome.disk.read request.expected = disk.read request.actual
  kept : FilesAgree disk mode request → outcome.disk = disk
  repeated : outcome.result = .ok .clean →
    again.result = .ok .clean ∧ again.disk = outcome.disk
  unchanged_of_failed : ∀ failure, outcome.result = .error failure → outcome.disk = disk

section Runs

variable {disk : Disk} {mode : CompareMode} {request : CompareRequest} {outcome : Outcome}

/-- Files that agree are left alone. -/
theorem Runs.of_filesAgree (runs : Runs disk mode request outcome)
    (agree : FilesAgree disk mode request) :
    outcome.result = .ok .clean ∧ outcome.disk = disk := by
  obtain ⟨golden, text, expected, actual, agree⟩ := agree
  have settled {other otherText : Text} (heldGolden : disk.HoldsText request.expected other)
      (heldActual : disk.HoldsText request.actual otherText) :
      Diff.agree mode other otherText = true := by
    rwa [heldGolden.unique expected, heldActual.unique actual]
  have fresh {otherText : Text} (heldActual : disk.HoldsText request.actual otherText) :
      ¬(disk.isFile request.expected = false ∨ ∃ other,
        disk.HoldsText request.expected other ∧ ¬Diff.agree mode other otherText = true) := by
    rintro (missing | ⟨other, heldGolden, disagree⟩)
    · rw [expected.isFile] at missing
      contradiction
    · exact disagree (settled heldGolden heldActual)
  cases runs with
  | unreadableActual unreadable => exact absurd ⟨text, actual⟩ unreadable
  | unreadableGolden _ unreadable _ => exact absurd ⟨golden, expected⟩ unreadable
  | agrees => exact ⟨rfl, rfl⟩
  | differs _ heldGolden heldActual disagree => exact absurd (settled heldGolden heldActual) disagree
  | replaces _ heldActual stale _ => exact absurd stale (fresh heldActual)
  | cannotReplace _ heldActual stale _ => exact absurd stale (fresh heldActual)

/-- After a run that ends well the golden file agrees with the actual output, which
is what it was. -/
theorem Runs.agrees_after (runs : Runs disk mode request outcome)
    (clean : outcome.result = .ok .clean) :
    ∃ golden text, outcome.disk.HoldsText request.expected golden ∧
      disk.HoldsText request.actual text ∧ outcome.disk.HoldsText request.actual text ∧
      Diff.agree mode golden text = true := by
  cases runs with
  | @agrees golden text expected actual agree =>
      exact ⟨golden, text, expected, actual, actual, agree⟩
  | @replaces text after notices updates actual stale written =>
      -- Both paths may lead to one file, which then holds the text all the same.
      have kept : after.HoldsText request.actual text := by
        rcases read_of_write_of_read written actual with same | replaced
        · exact same
        · exact replaced
      exact ⟨text, text, read_of_write written, actual, kept, Diff.agree_iff.mpr rfl⟩
  | _ => simp at clean

theorem Runs.unchanged_of_failed (runs : Runs disk mode request outcome) {failure : Failure}
    (failed : outcome.result = .error failure) : outcome.disk = disk := by
  cases runs with
  | replaces => contradiction
  | _ => rfl

/-- A run that may not replace the golden file tells whether the files agree. -/
theorem Runs.onlyCompares (runs : Runs disk mode request outcome)
    (keeps : request.update = false) : OnlyCompares disk mode request outcome where
  clean_iff := by
    refine ⟨?_, fun agree => (runs.of_filesAgree agree).1⟩
    intro clean
    cases runs with
    | @agrees golden text expected actual agree => exact ⟨golden, text, expected, actual, agree⟩
    | replaces updates => exact absurd (keeps.symm.trans updates) (by decide)
    | _ => simp at clean
  unchanged := by
    cases runs with
    | replaces updates => exact absurd (keeps.symm.trans updates) (by decide)
    | _ => rfl

/-- A run that may replace the golden file ends well exactly if the files agree, or
the actual output can be read and the golden file, if there is one, can be both
read and written. -/
theorem Runs.clean_iff (runs : Runs disk mode request outcome)
    (updates : request.update = true) :
    outcome.result = .ok .clean ↔
      FilesAgree disk mode request ∨
        ∃ text after, disk.HoldsText request.actual text ∧
          (disk.isFile request.expected = false ∨
            ∃ golden, disk.HoldsText request.expected golden) ∧
          disk.write request.expected (Text.encode text) = .ok after := by
  constructor
  · intro clean
    cases runs with
    | @agrees golden text expected actual agree =>
        exact .inl ⟨golden, text, expected, actual, agree⟩
    | @replaces text after _ _ actual stale written =>
        refine .inr ⟨text, after, actual, ?_, written⟩
        rcases stale with missing | ⟨golden, expected, -⟩
        · exact .inl missing
        · exact .inr ⟨golden, expected⟩
    | _ => simp at clean
  · rintro (agree | ⟨text, after, actual, readable, written⟩)
    · exact (runs.of_filesAgree agree).1
    · cases runs with
      | unreadableActual unreadable => exact absurd ⟨text, actual⟩ unreadable
      | unreadableGolden _ unreadable present =>
          rcases readable with missing | held
          · exact absurd (missing.symm.trans (present updates)) (by decide)
          · exact absurd held unreadable
      | agrees => rfl
      | differs keeps => exact absurd (keeps.symm.trans updates) (by decide)
      | replaces => rfl
      | cannotReplace _ heldActual _ unwritten =>
          rw [heldActual.unique actual, written] at unwritten
          contradiction

end Runs

/-- A request that may replace the golden file does what it should, and repeating it
does nothing. -/
theorem updates_run (disk : Disk) (settings : Settings) (request : CompareRequest)
    (updates : request.update = true) :
    Updates disk (request.modeUnder settings) request (request.run disk settings)
      (request.run (request.run disk settings).disk settings) := by
  have runs := runs_run disk settings request
  have again := runs_run (request.run disk settings).disk settings request
  generalize request.run disk settings = outcome at runs again ⊢
  refine ⟨?_, runs.clean_iff updates, ?_, ?_, fun agree => (runs.of_filesAgree agree).2, ?_,
    fun failure => runs.unchanged_of_failed⟩
  · intro problems
    cases runs with
    | differs keeps => exact absurd (keeps.symm.trans updates) (by decide)
    | _ => simp at problems
  · intro clean
    obtain ⟨golden, text, expected, actual, -, agree⟩ := runs.agrees_after clean
    exact ⟨golden, text, expected, actual, agree⟩
  · intro clean exact_
    obtain ⟨golden, text, expected, actual, -, agree⟩ := runs.agrees_after clean
    rw [exact_, Diff.agree_iff] at agree
    obtain rfl : golden = text := agree
    exact expected.trans actual.symm
  · intro clean
    obtain ⟨golden, text, expected, -, actual, agree⟩ := runs.agrees_after clean
    exact again.of_filesAgree ⟨golden, text, expected, actual, agree⟩

/-- A golden file that cannot be read ends the run, unless there is merely none and
one may be made. -/
theorem refused_of_unreadable_golden (disk : Disk) (settings : Settings)
    (request : CompareRequest)
    (unreadable : ¬∃ golden, disk.HoldsText request.expected golden)
    (present : request.update = true → disk.resolve request.expected ≠ .error .notFound) :
    Refused disk (request.run disk settings) := by
  have runs := runs_run disk settings request
  generalize request.run disk settings = outcome at runs ⊢
  cases runs with
  | unreadableActual => exact ⟨⟨_, rfl⟩, rfl⟩
  | unreadableGolden => exact ⟨⟨_, rfl⟩, rfl⟩
  | agrees expected => exact absurd ⟨_, expected⟩ unreadable
  | differs _ expected => exact absurd ⟨_, expected⟩ unreadable
  | replaces updates _ stale written =>
      obtain ⟨location, target, -⟩ := write_eq_ok written
      rcases stale with missing | ⟨golden, expected, -⟩
      · rcases read_of_writeTarget target with isFile | vacant
        · exact absurd (missing.symm.trans isFile) (by decide)
        · exact absurd vacant (present updates)
      · exact absurd ⟨golden, expected⟩ unreadable
  | cannotReplace => exact ⟨⟨_, rfl⟩, rfl⟩

/-- A comparison as a transformer of disks.  Without leave to replace the golden
file it tells whether the two texts agree and changes nothing; with leave it makes
them agree where it can, and repeating it changes nothing.  An actual output that
cannot be read is a failure, and so is a golden file that cannot be read, unless
there is none and one may be made.  The tool of the settings plays no part. -/
theorem compare_run_transforms_disk (disk : Disk) (settings : Settings)
    (request : CompareRequest) :
    (request.update = false →
      OnlyCompares disk (request.modeUnder settings) request (request.run disk settings)) ∧
    (request.update = true →
      Updates disk (request.modeUnder settings) request (request.run disk settings)
        (request.run (request.run disk settings).disk settings)) ∧
    ((¬∃ text, disk.HoldsText request.actual text) →
      Refused disk (request.run disk settings)) ∧
    ((¬∃ golden, disk.HoldsText request.expected golden) →
      (request.update = true → disk.resolve request.expected ≠ .error .notFound) →
      Refused disk (request.run disk settings)) ∧
    ∀ tool, request.run disk { settings with tool := tool } = request.run disk settings := by
  refine ⟨(runs_run disk settings request).onlyCompares, updates_run disk settings request, ?_,
    refused_of_unreadable_golden disk settings request, ?_⟩
  · intro unreadable
    obtain ⟨cause, read⟩ := readText_eq_error unreadable
    rw [CompareRequest.run_eq_runOnTexts, CompareRequest.runOnTexts, read]
    exact ⟨⟨_, rfl⟩, rfl⟩
  · intro tool
    rw [CompareRequest.run_eq_runOnTexts, CompareRequest.run_eq_runOnTexts]
    rfl

end Program

end GoldenCheck
