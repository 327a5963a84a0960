import ChartLint.CommandLine.Run
import Std.Time.DateTime.Timestamp

/-!
# The program

What a run may look at is read from the disk first, the run is made on that, and what it says is
printed.  Afterwards the run log is written back.
-/

namespace ChartLint

namespace Program

/-- The paths that arguments name. -/
def namedPaths (arguments : List String) : List String :=
  match Options.parse arguments with
  | .ok (.run o) => o.paths ++ o.config.toList ++ o.logFile.toList ++ o.stats.toList
  | _ => []

/-- The run log that arguments name. -/
def runLog? (arguments : List String) : Option String :=
  match Options.parse arguments with
  | .ok (.run o) => o.logFile
  | _ => none

/-- The names that lead to a place on the disk. -/
def placeOf (path : String) : IO Path := do
  return ⟨(← IO.FS.realPath ((← IO.currentDir) / path)).toString⟩

/-- Read the directories at and above a path. -/
def readWay (fs : FileSystem) (path : String) : IO FileSystem := do
  let mut fs := fs
  for p in (Path.ancestors ⟨path⟩).reverse do
    if ← ((← IO.currentDir) / p.text).isDir then
      fs := fs.makeDirectory (← placeOf p.text)
  return fs

/-- Read the scripts below a path, and the file at the path whatever its name is. -/
partial def readBelow (fs : FileSystem) (path : String) (named : Bool) : IO FileSystem := do
  let place := (← IO.currentDir) / path
  if ← place.isDir then
    let mut fs := fs.makeDirectory (← placeOf path)
    for entry in ← place.readDir do
      fs ← readBelow fs (path ++ "/" ++ entry.fileName) false
    return fs
  else if (named || Path.isScript ⟨path⟩) && (← place.pathExists) then
    return fs.write (← placeOf path) (← IO.FS.readBinFile path)
  else return fs

/-- The part of the disk that a run may look at. -/
def snapshot (arguments : List String) : IO FileSystem := do
  let here := (← IO.currentDir).toString
  let names := (Text.split '/' here).filter (· != "")
  let configs := (Path.ancestors ⟨here⟩).map fun p => (p.join ⟨Config.fileName⟩).text
  let mut fs : FileSystem := (⟨.empty, names⟩ : FileSystem).makeDirectory ⟨here⟩
  for path in configs do
    unless ← ((← IO.currentDir) / path).isDir do
      fs ← readBelow fs path true
  for path in namedPaths arguments do
    fs ← readWay fs path
    fs ← readBelow fs path true
  return fs

/-- Are colors forced, forbidden, or possible? -/
def useColors : IO Bool := do
  let isOn (value : Option String) := value.any (· != "0")
  if isOn (← IO.getEnv "CLICOLOR_FORCE") then return true
  else if (← IO.getEnv "NO_COLOR").isSome then return false
  else if (← IO.getEnv "CLICOLOR") == some "0" then return false
  else (← IO.getStdout).isTty

/-- Are warnings shown? -/
def showWarnings : IO Bool := do
  let level ← IO.getEnv "PINE_LINT_LOG"
  return level != some "off" && level != some "error"

/-- Write a run log back, if the run has changed it. -/
def writeBack (before after : FileSystem) (log : String) : IO Unit := do
  match before.readBytes ⟨log⟩, after.readBytes ⟨log⟩ with
  | .ok old, .ok new => unless old == new do IO.FS.writeBinFile log new
  | .error _, .ok new =>
    if let some directory := Path.parent? ⟨log⟩ then
      unless directory.text.isEmpty do IO.FS.createDirAll directory.text
    IO.FS.writeBinFile log new
  | _, .error _ => return ()

/-- Make a run and print what it says. -/
def start (arguments : List String) : IO UInt32 := do
  let seconds := (← Std.Time.Timestamp.now).toSecondsSinceUnixEpoch.val
  let env : Surroundings :=
    { colored := ← useColors, warns := ← showWarnings, now := ⟨seconds⟩ }
  let fs ← snapshot arguments
  let outcome := run env fs arguments
  (← IO.getStderr).putStr (linesText outcome.messages)
  (← IO.getStdout).putStr (linesText outcome.output)
  if let some log := runLog? arguments then
    writeBack fs outcome.files log
  return outcome.exitCode.toUInt32

end Program

end ChartLint

/-- Run the linter on the arguments. -/
def main (arguments : List String) : IO UInt32 :=
  ChartLint.Program.start arguments
