import ChartLint.Files.Tree
import ChartLint.Sorted

/-!
# Collecting scripts

The linter is given files and directories.  A file is taken whatever its name is.  Below a directory,
the files with the extension of scripts are taken.  An entry below a directory is passed over, with
everything in it, if a pattern is its name or ends its path; the directory that was given never is.

The files are sorted, and of equivalent paths the one that was found first stays.  A path below a
directory may be too long to lead to its file, and such a file is left out.
-/

namespace ChartLint

/-- The extension of scripts. -/
def scriptExtension : String := "pine"

/-- Has the path the extension of a script? -/
def Path.isScript (p : Path) : Bool :=
  p.extension? == some scriptExtension

/-- Is the entry at a path passed over? -/
def isExcluded (patterns : List String) (p : Path) : Bool :=
  match p.fileName? with
  | none => false
  | some name => patterns.any fun pattern => name == pattern || p.endsWith ⟨pattern⟩

/-- The scripts below a directory. -/
def Listing.scripts (patterns : List String) (base : Path) : Listing → List Path
  | .empty => []
  | .file name _ rest =>
    let p := base.join ⟨name⟩
    (if !isExcluded patterns p && p.isScript then [p] else []) ++ rest.scripts patterns base
  | .directory name inner rest =>
    let p := base.join ⟨name⟩
    (if isExcluded patterns p then [] else inner.scripts patterns p) ++ rest.scripts patterns base

namespace FileSystem

/-- The files that a path stands for: the file itself, or the scripts below a directory. -/
def scriptsAt (fs : FileSystem) (patterns : List String) (p : Path) : List Path :=
  if fs.isFile p then [p]
  else match fs.directory? p with
    | some listing => (listing.scripts patterns p).filter fun q => fs.isFile q
    | none => []

/-- The files that some paths stand for, sorted. -/
def collect (fs : FileSystem) (paths : List String) (patterns : List String) : List Path :=
  Sorted.ofList (paths.flatMap fun p => fs.scriptsAt patterns ⟨p⟩)

/-- The paths that lead to no file and no directory. -/
def missing (fs : FileSystem) (paths : List String) : List String :=
  paths.filter fun p => !fs.present ⟨p⟩

end FileSystem

end ChartLint
