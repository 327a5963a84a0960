import ChartLint.Config
import ChartLint.Files.Tree
import ChartLint.Pattern.Reader

/-!
# Finding and loading configurations

A configuration file has a fixed name.  It is looked for in a directory, in the parent of that, and
so on.  A configuration is loaded only if its patterns can be read, too.
-/

namespace ChartLint

/-- Why a configuration could not be loaded. -/
inductive ConfigError where
  /-- The file could not be read. -/
  | unreadable (path : Path) (cause : FileError)
  /-- The file is no document, or has a value of the wrong kind. -/
  | malformed (path : Path)
  /-- A pattern is no regular expression. -/
  | invalidPattern (pattern : String) (cause : PatternError)

/-- What went wrong, in words. -/
def ConfigError.message : ConfigError → String
  | .unreadable path cause => "failed to read " ++ path.text ++ ": " ++ cause.message
  | .malformed path => "failed to parse " ++ path.text
  | .invalidPattern pattern cause =>
    "invalid control input pattern '" ++ pattern ++ "': " ++ cause.message pattern

namespace Settings

/-- The patterns of the settings, read. -/
def patterns (s : Settings) : Except ConfigError (List Pattern) :=
  (readPatterns s.controlInputPatterns).mapError fun (pattern, cause) =>
    .invalidPattern pattern cause

end Settings

namespace Config

/-- The name of configuration files. -/
def fileName : String := "pine-lint.toml"

/-- Where the search for a configuration starts: at the directory of a file, or at the path itself. -/
def searchStart? (fs : FileSystem) (start : Path) : Option Path :=
  if fs.isFile start then start.parent? else some start

/-- The first configuration file from a path upward. -/
def find? (fs : FileSystem) (start : Path) : Option Path := do
  let start ← searchStart? fs start
  (start.ancestors.map (·.join ⟨fileName⟩)).find? fs.isFile

/-- The configuration in a file. -/
def load (fs : FileSystem) (path : Path) : Except ConfigError Config := do
  let text ← (fs.readText path).mapError (.unreadable path)
  match read text with
  | none => .error (.malformed path)
  | some config =>
    let _ ← config.settings.patterns
    return config

end Config

end ChartLint
