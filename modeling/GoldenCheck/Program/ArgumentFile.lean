import GoldenCheck.Failure
import GoldenCheck.Fixture.Line

/-!
# Argument files

An argument `@path` stands for the lines of a file, one argument a line.  Lines
may refer to further files.  A chain of references without a circle is no longer
than there are files, which bounds the depth of the expansion.
-/

namespace GoldenCheck.Program

/-- The arguments in an argument file.  Empty lines are none. -/
def argumentLines (text : Text) : List Text :=
  ((Fixture.splitLines text).map Prod.fst).filter fun line => !line.isEmpty

/-- The path of the file that an argument stands for. -/
def argumentFile? : Text → Option Path
  | '@' :: name => some (Path.ofText name)
  | _ => none

/-- Expand one argument through at most so many references. -/
def expandArgument (disk : Disk) : Nat → Text → Except Failure (List Text)
  | depth, argument =>
      match argumentFile? argument, depth with
      | none, _ => .ok [argument]
      | some path, 0 => .error (.argumentCircle path)
      | some path, depth + 1 => do
          let text ← failWith (.argumentFile path) (disk.readText path)
          let expanded ← (argumentLines text).mapM (expandArgument disk depth)
          pure expanded.flatten

/-- Expand all arguments. -/
def expandArguments (disk : Disk) (arguments : List Text) : Except Failure (List Text) := do
  let expanded ← arguments.mapM (expandArgument disk (disk.files.length + 1))
  pure expanded.flatten

end GoldenCheck.Program
