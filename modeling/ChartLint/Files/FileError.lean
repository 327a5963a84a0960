/-!
# Errors of reading and writing files

Why a file could not be read as text, or could not be written.
-/

namespace ChartLint

/-- Why a file could not be read or written. -/
inductive FileError where
  /-- There is nothing at the path. -/
  | notFound
  /-- A part of the path in front is a file. -/
  | notADirectory
  /-- The path leads to a directory. -/
  | isADirectory
  /-- The path, or a name in it, is too long. -/
  | nameTooLong
  /-- The path has a character that no path can have. -/
  | nullInPath
  /-- The bytes are not text in UTF-8. -/
  | invalidText
deriving DecidableEq, Repr

/-- What went wrong, in words. -/
def FileError.message : FileError → String
  | .notFound => "No such file or directory (os error 2)"
  | .notADirectory => "Not a directory (os error 20)"
  | .isADirectory => "Is a directory (os error 21)"
  | .nameTooLong => "File name too long (os error 36)"
  | .nullInPath => "file name contained an unexpected NUL byte"
  | .invalidText => "stream did not contain valid UTF-8"

end ChartLint
