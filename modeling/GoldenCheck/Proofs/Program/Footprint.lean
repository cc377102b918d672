import GoldenCheck.Program.Session
import GoldenCheck.Proofs.Program.Compare

/-!
# What a run may change

A command may be asked to write one file: a check its report, a comparison the
golden file, and a list of pairs none.  A run leaves the disk as it was or writes
that file, and it writes only as its last step, so a run that fails on the way has
changed nothing.
-/

namespace GoldenCheck

open Disk

/-- Two images differ at most in the file to which a path leads. -/
structure Disk.DifferOnlyAt (before after : Disk) (path : Path) : Prop where
  current : after.current = before.current
  entries : ∀ location, after.entry? location ≠ before.entry? location →
    before.entry? location ≠ some .folder ∧
      ∃ contents, after.resolve path = .ok (location, .file contents)

theorem Disk.DifferOnlyAt.refl (disk : Disk) (path : Path) : DifferOnlyAt disk disk path :=
  ⟨rfl, fun _ different => absurd rfl different⟩

/-- Writing a file changes that file only. -/
theorem Disk.differOnlyAt_of_write {disk after : Disk} {path : Path} {contents : Bytes}
    (written : disk.write path contents = .ok after) : DifferOnlyAt disk after path := by
  obtain ⟨location, target, rfl⟩ := write_eq_ok written
  obtain ⟨usable, walked, notRoot, notFolder⟩ := writeTarget_eq_ok target
  refine ⟨rfl, fun place different => ?_⟩
  obtain rfl : place = location := by
    by_contra elsewhere
    rw [entry?_put notRoot, if_neg elsewhere] at different
    exact different rfl
  refine ⟨notFolder, contents, resolve_eq_ok_iff.mpr ⟨usable, ?_, ?_⟩⟩
  · exact walk_of_writeTarget target walked
  · rw [entry?_put notRoot, if_pos rfl]

namespace Program

/-! ## What commands are asked to write -/

/-- The file that a command is asked to write, if any. -/
def Command.target : Command → Option Path
  | .check request => request.output
  | .compare request => if request.update then some request.expected else none
  | .pairs _ => none

/-- What a command does to the disk: nothing, or it writes the file that it is asked
to write and then ends with a verdict. -/
inductive Touches (disk : Disk) (target : Option Path) (outcome : Outcome) : Prop where
  | nothing (unchanged : outcome.disk = disk)
  | file {path : Path} {contents : Bytes} {verdict : Verdict} (asked : target = some path)
      (written : disk.write path contents = .ok outcome.disk)
      (ended : outcome.result = .ok verdict)

theorem touches_checkFiles (disk : Disk) (cores : Nat) (settings : Settings)
    (request : CheckRequest) (files : List Path) :
    Touches disk request.output (checkFiles disk cores settings request files) := by
  rw [checkFiles]
  dsimp only
  cases allProblems disk settings request.checkPairs (lintFiles disk settings files).2 with
  | error failure => exact .nothing rfl
  | ok problems =>
      dsimp only
      rw [reportProblems]
      cases asked : request.output with
      | none => exact .nothing rfl
      | some path =>
          dsimp only
          generalize Text.encode (Problem.report request.format problems) = contents
          cases written : disk.write path contents with
          | error cause => exact .nothing rfl
          | ok after => exact .file rfl written rfl

theorem touches_check (disk : Disk) (cores : Nat) (settings : Settings)
    (request : CheckRequest) :
    Touches disk request.output (request.run disk cores settings) := by
  rw [CheckRequest.run]
  split
  · exact .nothing rfl
  · exact touches_checkFiles ..

theorem touches_compare (disk : Disk) (settings : Settings) (request : CompareRequest) :
    Touches disk (Command.compare request).target (request.run disk settings) := by
  have runs := runs_run disk settings request
  generalize request.run disk settings = outcome at runs ⊢
  cases runs with
  | replaces updates _ _ written => exact .file (if_pos updates) written rfl
  | _ => exact .nothing rfl

theorem touches_pairs (disk : Disk) (settings : Settings) (request : PairsRequest) :
    Touches disk none (request.run disk settings) := by
  rw [PairsRequest.run]
  dsimp only
  split
  · exact .nothing rfl
  · exact .nothing rfl

theorem touches_command (disk : Disk) (cores : Nat) (settings : Settings) (command : Command) :
    Touches disk command.target (command.run disk cores settings) := by
  cases command with
  | check request => exact touches_check ..
  | compare request => exact touches_compare ..
  | pairs request => exact touches_pairs ..

/-- Finding the settings changes nothing. -/
theorem touches_request (disk : Disk) (cores : Nat) (request : Request) :
    Touches disk request.command.target (request.run disk cores) := by
  rw [Request.run]
  dsimp only
  split
  · exact .nothing rfl
  · rename_i settings _
    cases touches_command disk cores settings request.command with
    | nothing unchanged => exact .nothing unchanged
    | file asked written ended => exact .file asked written ended

/-! ## Whole runs -/

section Touches

variable {disk : Disk} {target : Option Path} {outcome : Outcome}

theorem Touches.unchanged_of_failed (touches : Touches disk target outcome) {failure : Failure}
    (failed : outcome.result = .error failure) : outcome.disk = disk := by
  cases touches with
  | nothing unchanged => exact unchanged
  | file _ _ ended =>
      rw [ended] at failed
      contradiction

theorem Touches.unchanged_of_none (touches : Touches disk target outcome)
    (unasked : target = none) : outcome.disk = disk := by
  cases touches with
  | nothing unchanged => exact unchanged
  | file asked =>
      rw [unasked] at asked
      contradiction

theorem Touches.differOnlyAt (touches : Touches disk target outcome) {path : Path}
    (asked : ∀ other, target = some other → other = path) :
    DifferOnlyAt disk outcome.disk path := by
  cases touches with
  | nothing unchanged =>
      rw [unchanged]
      exact .refl disk path
  | file isTarget written => exact asked _ isTarget ▸ differOnlyAt_of_write written

end Touches

/-- A session in which a command was started ends as the command does. -/
theorem run_of_parse {disk : Disk} {environment : Environment} {cores : Nat}
    {arguments expanded : List Text} {request : Request}
    (isExpanded : expandArguments disk arguments = .ok expanded)
    (isParsed : Request.parse environment expanded = .ok request) :
    (run disk environment cores arguments).disk = (request.run disk cores).disk ∧
      (run disk environment cores arguments).ending =
        .ofResult (request.run disk cores).result := by
  rw [run, isExpanded]
  dsimp only
  rw [isParsed]
  exact ⟨rfl, rfl⟩

/-- A session that does not end with a verdict has changed nothing. -/
theorem unchanged_of_not_done {disk : Disk} {environment : Environment} {cores : Nat}
    {arguments : List Text}
    (unfinished : ∀ verdict, (run disk environment cores arguments).ending ≠ .done verdict) :
    (run disk environment cores arguments).disk = disk := by
  cases isExpanded : expandArguments disk arguments with
  | error failure =>
      rw [run, isExpanded]
  | ok expanded =>
      cases isParsed : Request.parse environment expanded with
      | error refusal =>
          rw [run, isExpanded]
          dsimp only
          rw [isParsed]
          cases refusal <;> rfl
      | ok request =>
          obtain ⟨disk_eq, ending_eq⟩ := @run_of_parse _ _ cores _ _ _ isExpanded isParsed
          rw [ending_eq] at unfinished
          cases result : (request.run disk cores).result with
          | error failure =>
              rw [disk_eq]
              exact (touches_request disk cores request).unchanged_of_failed result
          | ok verdict =>
              rw [result] at unfinished
              exact absurd rfl (unfinished verdict)

/-- A run touches only what it is asked to write.  A list of pairs changes nothing, a
check at most the file for its report, and a comparison at most the golden file, and
that only with leave to replace it.  A run that does not end with a verdict, because
something could not be done or the command line was not understood, changes nothing. -/
theorem run_changes_only_what_is_asked (disk : Disk) (environment : Environment) (cores : Nat)
    (arguments : List Text) :
    let session := run disk environment cores arguments
    (∀ failure, session.ending = .failed failure → session.disk = disk) ∧
      (∀ refusal, session.ending = .refused refusal → session.disk = disk) ∧
      ∀ expanded request, expandArguments disk arguments = .ok expanded →
        Request.parse environment expanded = .ok request →
        (∀ pairs, request.command = .pairs pairs → session.disk = disk) ∧
        (∀ check, request.command = .check check →
          (check.output = none → session.disk = disk) ∧
          ∀ path, check.output = some path → DifferOnlyAt disk session.disk path) ∧
        ∀ compare, request.command = .compare compare →
          (compare.update = false → session.disk = disk) ∧
          DifferOnlyAt disk session.disk compare.expected := by
  intro session
  refine ⟨?_, ?_, ?_⟩
  · intro failure failed
    exact unchanged_of_not_done (by simp [session, failed])
  · intro refusal refused
    exact unchanged_of_not_done (by simp [session, refused])
  · intro expanded request isExpanded isParsed
    have touches := touches_request disk cores request
    obtain ⟨disk_eq, -⟩ := @run_of_parse _ _ cores _ _ _ isExpanded isParsed
    rw [show session.disk = _ from disk_eq]
    refine ⟨?_, ?_, ?_⟩
    · intro pairs isPairs
      rw [isPairs] at touches
      exact touches.unchanged_of_none rfl
    · intro check isCheck
      rw [isCheck] at touches
      refine ⟨touches.unchanged_of_none, fun path asked => touches.differOnlyAt ?_⟩
      intro other isTarget
      exact Option.some.inj (isTarget.symm.trans asked)
    · intro compare isCompare
      rw [isCompare] at touches
      refine ⟨fun keeps => touches.unchanged_of_none ?_, touches.differOnlyAt ?_⟩
      · simp [Command.target, keeps]
      · intro other isTarget
        rw [Command.target] at isTarget
        split at isTarget
        · exact (Option.some.inj isTarget).symm
        · contradiction

end Program

end GoldenCheck
