import ChartLint.Config
import ChartLint.Rule

/-!
# Which rules run, and which paths are passed over

A configuration file and the command line both name rules to switch on and off.  The file is read
first and only if the command line names no rule (`Selection.ofConfig`).  What the command line says
then takes its place (`Selection.override`).  Ids are trimmed and put in upper case first; `ALL`
among the rules to switch on stands for all of them.

Paths to pass over come from the file, then from the command line.  To them are added, one after the
other and if it is not there yet, a fixed list of directories that hold no scripts.
-/

namespace ChartLint

namespace Selection

/-- All rule ids, in order. -/
def allIds : List String :=
  Category.all.map (·.ruleId)

/-- A rule id as it is compared. -/
def normalize (id : String) : String :=
  Text.uppercase (Text.trim id)

/-- All rule ids but the given ones. -/
def allExcept (disabled : List String) : List String :=
  allIds.filter fun id => !disabled.any (Text.equalIgnoringCase · id)

/-- What a configuration selects, given the ids of the command line.  It is not asked if the command
line names any rule. -/
def ofConfig (config : Config) (enable disable : List String) : Option (List String) :=
  let configEnable := config.enable.map normalize
  let configDisable := config.disable.map normalize
  if enable.isEmpty && disable.isEmpty then
    if configEnable.contains "ALL" then some (allExcept configDisable)
    else if !configEnable.isEmpty then
      some (configEnable.filter fun id => !configDisable.contains id)
    else if !configDisable.isEmpty then some (allExcept configDisable)
    else none
  else none

/-- What the command line selects in place of what was chosen before it. -/
def override (chosen : Option (List String)) (enable disable : List String) :
    Option (List String) :=
  if !enable.isEmpty then
    if enable.contains "ALL" then some (allExcept disable)
    else some (enable.filter fun id => !disable.contains id)
  else if !disable.isEmpty then some (allExcept disable)
  else chosen

/-- The rule ids that run, or none for all of them. -/
def enabledIds (config : Option Config) (enable disable : List String) : Option (List String) :=
  let enable := enable.map normalize
  let disable := disable.map normalize
  override (config.bind fun c => ofConfig c enable disable) enable disable

/-- Directories that are always passed over. -/
def defaultExcludes : List String :=
  [".git", "node_modules", "target", "build", "dist", ".cache"]

/-- The paths to pass over. -/
def excludes (config : Option Config) (exclude : List String) : List String :=
  let given := (config.map (·.exclude)).getD [] ++ exclude
  defaultExcludes.foldl
    (fun paths d => if paths.contains d then paths else paths ++ [d]) given

end Selection

end ChartLint
