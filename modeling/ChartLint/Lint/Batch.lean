import ChartLint.Files.Tree
import ChartLint.Lint

/-!
# Linting files

Files are linted one by one, and each has a result of its own: the findings of the rules, or why the
file could not be read.
-/

namespace ChartLint

namespace FileSystem

/-- The lines of a file; none if it cannot be read. -/
def linesOf (fs : FileSystem) (path : String) : List String :=
  match fs.readText ⟨path⟩ with
  | .ok text => Text.lines text
  | .error _ => []

/-- The result of some rules on a file. -/
def lintFile (fs : FileSystem) (rules : List Category) (settings : Settings) (path : Path) :
    LintResult :=
  ⟨path.text, (fs.readText path).map fun source => lintSource source rules settings⟩

/-- The results of some rules on files, in the order of the files. -/
def lintFiles (fs : FileSystem) (rules : List Category) (settings : Settings) (paths : List Path) :
    List LintResult :=
  paths.map (fs.lintFile rules settings)

end FileSystem

end ChartLint
