import GoldenCheck.Failure

/-!
# Selecting fixtures

Fixtures are selected by patterns.  A pattern that leads to a folder selects the
Python files at any depth below it, and one that leads to a file selects the
file if it is a Python file.  Every pattern must select something.
-/

namespace GoldenCheck.Selection

/-- What is not a folder selects itself, if it is a Python file. -/
def selfIfPython (path : Path) : List Path :=
  if path.isPython then [path] else []

/-- What a path selects with a given number of steps down.  A folder selects what the
paths in it select, in ascending order.  Everything is reached by its path, so a folder
whose path is too long is not entered and counts as a file. -/
def filesWithin (disk : Disk) : Nat → Path → List Path
  | 0, path => selfIfPython path
  | steps + 1, path =>
      match disk.list path with
      | .ok inside =>
          (inside.mergeSort fun first second => Path.compare first second != .gt).flatMap
            (filesWithin disk steps)
      | .error _ => selfIfPython path

/-- What one path selects.  Every step down makes a path longer, so there are never
more steps than bytes in the longest path. -/
def filesAt (disk : Disk) (path : Path) : List Path :=
  filesWithin disk (Disk.longestPath + 1) path

/-- What one pattern selects.  It must select something. -/
def filesMatching (disk : Disk) (pattern : Text) : Except Failure (List Path) := do
  let plan ← failWith (.pattern pattern) (Glob.Plan.parse pattern)
  let paths ← failWith (.expansion pattern) (Glob.paths disk plan)
  let files := paths.flatMap (filesAt disk)
  if files.isEmpty then .error (.noMatch pattern) else .ok files

/-- Keep each path at its first occurrence.  However they are written, two paths
with the same components count as one. -/
def distinct (paths : List Path) : List Path :=
  paths.foldl (fun kept path => if kept.any path.same then kept else kept ++ [path]) []

/-- The fixtures that patterns select, each once, in the order of the patterns. -/
def files (disk : Disk) (patterns : List Text) : Except Failure (List Path) := do
  let selected ← patterns.mapM (filesMatching disk)
  pure (distinct selected.flatten)

end GoldenCheck.Selection
