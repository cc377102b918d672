import GoldenCheck.Proofs.Disk.Access
import GoldenCheck.Proofs.Fixture.Lines
import GoldenCheck.Proofs.Lint.Messages
import GoldenCheck.Proofs.Program.Check

/-!
# One line for each problem

A report in the form of a text ends the display of each problem with a newline.  The displays
hold none themselves, since neither their messages nor the paths do, and they end with a
bracket, so that nothing of them is taken for a line ending.  The lines of the report, and of
the file that it is written to, are therefore the displays of the problems.
-/

namespace GoldenCheck

open Disk

namespace Problem

/-! ## Displays -/

theorem Kind.newline_not_mem_name (kind : Kind) : '\n' ∉ kind.name := by
  cases kind <;> decide

theorem newline_not_mem_display {problem : Problem} (shown : '\n' ∉ problem.path.display)
    (message : '\n' ∉ problem.message) : '\n' ∉ problem.display := by
  simp [display, Text.cat, shown, message, Text.newline_not_mem_decimal,
    Kind.newline_not_mem_name]

theorem getLast?_display (problem : Problem) : problem.display.getLast? = some ']' := by
  have ends (front : Text) : (front ++ [']']).getLast? = some ']' := List.getLast?_concat
  simpa [display, Text.cat] using
    ends (Text.cat [problem.path.display, ":", Text.decimal problem.line, ": ",
      problem.message, " [", problem.kind.name])

/-! ## The text of a report -/

theorem textReport_cons (problem : Problem) (problems : List Problem) :
    textReport (problem :: problems) = problem.display ++ '\n' :: textReport problems := by
  simp [textReport]

theorem textReport_eq_flatten (problems : List Problem) :
    textReport problems =
      ((problems.map fun problem => (problem.display, Fixture.Ending.lf)).map
        Fixture.lineText).flatten := by
  rw [List.map_map]
  rfl

/-- Cut at its newlines, a report gives the displays, and nothing after the last newline. -/
theorem pieces_textReport {problems : List Problem}
    (onLine : ∀ problem ∈ problems, '\n' ∉ problem.display) :
    Text.pieces '\n' (textReport problems) = problems.map display ++ [[]] := by
  induction problems with
  | nil => rfl
  | cons problem problems ih =>
      rcases List.forall_mem_cons.mp onLine with ⟨here, later⟩
      rw [textReport_cons, Text.pieces_append_cons, Text.pieces_of_not_mem here, ih later]
      rfl

/-- The lines of a report are the displays. -/
theorem splitLines_textReport {problems : List Problem}
    (onLine : ∀ problem ∈ problems, '\n' ∉ problem.display) :
    Fixture.splitLines (textReport problems) =
      problems.map fun problem => (problem.display, .lf) := by
  rw [textReport_eq_flatten]
  apply Fixture.splitLines_flatten
  have display_of_mem {line : Text × Fixture.Ending}
      (member : line ∈ problems.map fun problem => (problem.display, Fixture.Ending.lf)) :
      ∃ problem ∈ problems, line = (problem.display, .lf) := by
    rcases List.mem_map.mp member with ⟨problem, listed, rfl⟩
    exact ⟨problem, listed, rfl⟩
  constructor
  · intro line member
    rcases display_of_mem member with ⟨problem, listed, rfl⟩
    exact onLine problem listed
  · intro line member _
    rcases display_of_mem member with ⟨problem, -, rfl⟩
    simp [getLast?_display]
  · intro line member
    rcases display_of_mem (List.dropLast_subset _ member) with ⟨problem, -, rfl⟩
    nofun
  · intro line member
    rcases display_of_mem member with ⟨problem, -, rfl⟩
    nofun

end Problem

namespace Program

/-- A report that is written to a file is what the file then holds. -/
theorem holdsText_of_reportProblems {disk after : Disk} {request : CheckRequest}
    {problems : List Problem} {notices : List Notice} {path : Path}
    (asked : request.output = some path)
    (reported : reportProblems disk request problems = .ok (after, notices)) :
    after.HoldsText path (Problem.report request.format problems) := by
  rw [reportProblems, asked] at reported
  rcases bind_eq_ok_iff.mp reported with ⟨written, done, same⟩
  cases same
  cases outcome : disk.write path (Text.encode (Problem.report request.format problems)) with
  | error cause =>
      rw [outcome] at done
      contradiction
  | ok written =>
      rw [outcome] at done
      cases done
      exact read_of_write outcome

/-- A problem that linting finds in some text, whose path is shown without a newline. -/
def IsLinted (problem : Problem) : Prop :=
  ∃ policy path tool text, '\n' ∉ Path.display path ∧
    problem ∈ Lint.problems policy (Fixture.parse path tool text)

theorem IsLinted.newline_not_mem_display {problem : Problem} (linted : IsLinted problem) :
    '\n' ∉ problem.display := by
  rcases linted with ⟨policy, path, tool, text, shown, member⟩
  have path_eq : problem.path = path := Lint.path_of_mem_problems member
  apply Problem.newline_not_mem_display
  · rwa [path_eq]
  · exact Lint.newline_not_mem_message shown member

/-- A problem that linting reports is displayed on one line, unless the path of the fixture
is shown with a newline.  The text of a report on such problems, and the file that it is
written to, therefore has their displays for its lines, one for each problem and in the same
order. -/
theorem report_has_one_line_per_problem :
    (∀ (policy : Lint.Policy) (path : Path) (tool text : Text), '\n' ∉ path.display →
      ∀ problem ∈ Lint.problems policy (Fixture.parse path tool text),
        '\n' ∉ problem.display) ∧
    ∀ problems : List Problem, (∀ problem ∈ problems, IsLinted problem) →
      Text.pieces '\n' (Problem.textReport problems) = problems.map Problem.display ++ [[]] ∧
      Fixture.splitLines (Problem.textReport problems) =
        problems.map (fun problem => (problem.display, .lf)) ∧
      ∀ (disk after : Disk) (request : CheckRequest) (notices : List Notice) (path : Path),
        request.output = some path → request.format = .text →
        reportProblems disk request problems = .ok (after, notices) →
          after.HoldsText path (Problem.textReport problems) := by
  constructor
  · intro policy path tool text shown problem member
    exact IsLinted.newline_not_mem_display ⟨policy, path, tool, text, shown, member⟩
  · intro problems linted
    have onLine (problem : Problem) (member : problem ∈ problems) : '\n' ∉ problem.display :=
      (linted problem member).newline_not_mem_display
    refine ⟨Problem.pieces_textReport onLine, Problem.splitLines_textReport onLine, ?_⟩
    intro disk after request notices path asked form reported
    have held := holdsText_of_reportProblems asked reported
    rwa [form] at held

/-- A header, entries, duplicates, a spelling and a gap that are all reported. -/
theorem report_of_untidy_fixture :
    let path := Path.ofText "x.py"
    let text : Text := "# y.py\nx\t#pyright:ignore[oops,reportA,reportA]\r\n"
    let policy : Lint.Policy := ⟨.forbidden, .alphabetical, true⟩
    let problems := Lint.problems policy (Fixture.parse path "pyright" text)
    '\n' ∉ path.display ∧ problems.length = 6 ∧
      (∀ problem ∈ problems, '\n' ∉ problem.display) ∧
      (Fixture.splitLines (Problem.textReport problems)).length = 6 := by
  intro path text policy problems
  have shown : '\n' ∉ path.display := by decide +kernel
  have number : problems.length = 6 := by decide +kernel
  have linted (problem : Problem) (member : problem ∈ problems) : IsLinted problem :=
    ⟨policy, path, "pyright", text, shown, member⟩
  rcases report_has_one_line_per_problem with ⟨oneLine, report⟩
  rcases report problems linted with ⟨-, lines, -⟩
  refine ⟨shown, number, oneLine policy path "pyright" text shown, ?_⟩
  rw [lines, List.length_map, number]

end Program

end GoldenCheck
