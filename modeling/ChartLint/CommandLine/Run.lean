import ChartLint.CommandLine.Options
import ChartLint.Config.Discovery
import ChartLint.Files.Collect
import ChartLint.Report
import ChartLint.Report.Statistics
import ChartLint.RunLog.File
import ChartLint.Selection

/-!
# Running the linter

A run is a function: from arguments, the files and the surroundings to what is printed, the exit
code, and the files afterwards.  Only the run log can change the files.

The exit code is 0 if no error was found, 1 if there are errors or files that could not be read, and
2 if the run could not be made at all.
-/

namespace ChartLint

/-- What a run depends on besides its arguments and the files. -/
structure Surroundings where
  /-- Use colors. -/
  colored : Bool
  /-- Show warnings. -/
  warns : Bool
  /-- The time of the run. -/
  now : Instant

/-- What came out of a run. -/
structure Outcome where
  /-- The exit code. -/
  exitCode : Nat
  /-- The lines of the output. -/
  output : List String := []
  /-- The lines of messages. -/
  messages : List String := []
  /-- The files afterwards. -/
  files : FileSystem

/-- Lines as a text. -/
def linesText (lines : List String) : String :=
  String.join (lines.map (· ++ "\n"))

namespace FileSystem

/-- The path of the working directory. -/
def workingPath (fs : FileSystem) : Path :=
  ⟨"/" ++ "/".intercalate fs.workingDirectory⟩

end FileSystem

namespace Run

/-- The program's name and version. -/
def versionText : String := "pine-lint 0.1.0"

/-- The lines of help. -/
def helpLines : List String :=
  ["A compliance checker for Pine-style chart scripts",
   "",
   "Usage: pine-lint [OPTIONS] [PATHS]...",
   "",
   "Arguments:",
   "  [PATHS]...  Files or directories to lint [default: .]",
   "",
   "Options:",
   "      --enable <ENABLE>                Enable specific rules (comma-separated, or \"ALL\")",
   "      --disable <DISABLE>              Disable specific rules (comma-separated)",
   "      --exclude <EXCLUDE>              Exclude paths matching patterns",
   "      --control-input <CONTROL_INPUT>  Identifiers treated as independent control inputs",
   "      --output-format <OUTPUT_FORMAT>  [default: text] [possible values: text, grouped, json]",
   "      --config <CONFIG>                Use this configuration file",
   "      --no-config                      Ignore pine-lint.toml configuration",
   "      --log-file <LOG_FILE>            Append a record of this run to a log file",
   "      --stats <LOG>                    Print statistics for a run log and exit",
   "  -v, --verbose                        Show verbose output",
   "  -h, --help                           Print help",
   "  -V, --version                        Print version"]

/-- A run that could not be made. -/
def failure (env : Surroundings) (fs : FileSystem) (message : String) : Outcome :=
  { exitCode := 2, files := fs
    messages := [(Style.boldColor .red).paint env.colored "error:" ++ " " ++ message] }

/-- A warning from a part of the program, if warnings are shown.  Further lines of its text are
indented. -/
def warning (env : Surroundings) (part text : String) : List String :=
  if env.warns then
    ["[WARN  " ++ part ++ "] " ++ "\n    ".intercalate (Text.split '\n' text)]
  else []

/-! ## What a run does -/

/-- The configuration of a run, with warnings about it.  One that is asked for has to be there; one
that is found on the way up is ignored if it cannot be loaded. -/
def configOf (env : Surroundings) (fs : FileSystem) (o : Options) :
    Except ConfigError (Option Config × List String) :=
  if o.noConfig then .ok (none, [])
  else match o.config with
    | some path => (Config.load fs ⟨path⟩).map fun config => (some config, [])
    | none =>
      match Config.find? fs fs.workingPath with
      | none => .ok (none, [])
      | some path =>
        match Config.load fs path with
        | .ok config => .ok (some config, [])
        | .error e =>
          .ok (none, warning env "pine_lint::config" ("Ignoring configuration: " ++ e.message))

/-- Settings with further control inputs. -/
def addInputs (s : Settings) (names : List String) : Settings :=
  names.foldl (fun s name =>
    if s.controlInputs.contains name then s
    else { s with controlInputs := s.controlInputs ++ [name] }) s

/-- What a run does. -/
structure Plan where
  /-- The ids of the rules that were selected, if any were. -/
  enabledIds : Option (List String)
  /-- The paths to pass over. -/
  excludes : List String
  /-- The settings of the analysis. -/
  settings : Settings

/-- What a run does with a configuration and options. -/
def planOf (config : Option Config) (o : Options) : Plan where
  enabledIds := Selection.enabledIds config o.enable o.disable
  excludes := Selection.excludes config o.exclude
  settings := addInputs ((config.map (·.settings)).getD {}) o.controlInputs

/-- The rules that a plan runs. -/
def Plan.rules (p : Plan) : List Category :=
  Category.enabled p.enabledIds

/-- The selected ids that name no rule. -/
def Plan.unknownIds (p : Plan) : List String :=
  (p.enabledIds.getD []).filter fun id =>
    !p.rules.any fun c => Text.equalIgnoringCase c.ruleId id

/-! ## What a run says -/

/-- What is counted at the end of a run. -/
structure Counts where
  /-- The errors. -/
  errors : Nat := 0
  /-- The warnings. -/
  warnings : Nat := 0
  /-- The files that could not be read. -/
  unreadable : Nat := 0

namespace Counts

/-- Count a finding. -/
def addFinding (c : Counts) (d : Diagnostic) : Counts :=
  match d.severity with
  | .error => { c with errors := c.errors + 1 }
  | .warning => { c with warnings := c.warnings + 1 }

/-- Count a result. -/
def addResult (c : Counts) (r : LintResult) : Counts :=
  r.diagnostics.foldl addFinding
    (if r.failure?.isSome then { c with unreadable := c.unreadable + 1 } else c)

/-- The counts of all results. -/
def ofResults (results : List LintResult) : Counts :=
  results.foldl addResult {}

end Counts

/-- The exit code for the results of a run. -/
def exitCode (results : List LintResult) : Nat :=
  let counts := Counts.ofResults results
  if 0 < counts.errors ∨ 0 < counts.unreadable then 1 else 0

/-- The lines at the end of the messages. -/
def summary (verbose : Bool) (results : List LintResult) : List String :=
  let counts := Counts.ofResults results
  let total := counts.errors + counts.warnings
  if 0 < total then
    ["", "Found " ++ toString total ++ " issue(s): " ++ toString counts.errors ++ " error(s), "
      ++ toString counts.warnings ++ " warning(s)"]
  else if verbose then ["", "No issues found."]
  else []

/-- The report in the format that was asked for. -/
def report (env : Surroundings) (fs : FileSystem) (format : ReportFormat)
    (results : List LintResult) : List String :=
  match format with
  | .text => Report.plain env.colored results
  | .grouped => Report.grouped env.colored fs results
  | .json => [(Report.value fs results).pretty]

/-- What the report leaves to the messages. -/
def failures (env : Surroundings) (format : ReportFormat) (results : List LintResult) : List String :=
  match format with
  | .json => []
  | _ => Report.failures env.colored results

/-- Add a record of the run to its run log, and warn if that is not possible. -/
def logResults (env : Surroundings) (fs : FileSystem) (o : Options) (plan : Plan)
    (results : List LintResult) : FileSystem × List String :=
  match o.logFile with
  | none => (fs, [])
  | some log =>
    match fs.logRun ⟨log⟩ (.ofRun fs results plan.enabledIds env.now) with
    | .ok fs => (fs, [])
    | .error e => (fs, warning env "pine_lint" ("Failed to write run log " ++ log ++ ": " ++ e.message))

/-- Lint the files of a run and report on them. -/
def lint (env : Surroundings) (fs : FileSystem) (o : Options) (plan : Plan) (files : List Path) :
    Outcome :=
  let format := o.format.getD .text
  let results := fs.lintFiles plan.rules plan.settings files
  let (fs', warnings) := logResults env fs o plan results
  { exitCode := exitCode results
    output := report env fs' format results
    messages := warnings ++ failures env format results ++ summary o.verbose results
    files := fs' }

/-- The messages before the files are linted. -/
def preamble (env : Surroundings) (fs : FileSystem) (o : Options) (plan : Plan) (files : List Path) :
    List String :=
  plan.unknownIds.flatMap (fun id => warning env "pine_lint" ("Unknown rule id: " ++ id))
  ++ (if o.verbose then ["Active rules: " ++ ", ".intercalate (plan.rules.map (·.ruleId))] else [])
  ++ (fs.missing o.paths).flatMap
      (fun path => warning env "pine_lint" (path ++ ": no such file or directory"))
  ++ (if o.verbose then ["Found " ++ toString files.length ++ " script files"] else [])

/-- Carry out a plan. -/
def carryOut (env : Surroundings) (fs : FileSystem) (o : Options) (plan : Plan) : Outcome :=
  let files := fs.collect o.paths plan.excludes
  let outcome :=
    if files.isEmpty then { exitCode := 0, messages := ["No script files found"], files := fs }
    else lint env fs o plan files
  { outcome with messages := preamble env fs o plan files ++ outcome.messages }

/-- Report on a run log. -/
def reportLog (env : Surroundings) (fs : FileSystem) (log : String) : Outcome :=
  match fs.logStats ⟨log⟩ with
  | .ok stats => { exitCode := 0, output := stats.report env.colored, files := fs }
  | .error e => failure env fs ("failed to read run log " ++ log ++ ": " ++ e.message)

/-- Do what the options ask for. -/
def withOptions (env : Surroundings) (fs : FileSystem) (o : Options) : Outcome :=
  match o.stats with
  | some log => reportLog env fs log
  | none =>
    match configOf env fs o with
    | .error e => failure env fs e.message
    | .ok (config, warnings) =>
      let outcome := carryOut env fs o (planOf config o)
      { outcome with messages := warnings ++ outcome.messages }

end Run

/-- A run of the linter. -/
def run (env : Surroundings) (fs : FileSystem) (arguments : List String) : Outcome :=
  match Options.parse arguments with
  | .error e => Run.failure env fs e.message
  | .ok .version => { exitCode := 0, output := [Run.versionText], files := fs }
  | .ok .help => { exitCode := 0, output := Run.helpLines, files := fs }
  | .ok (.run o) => Run.withOptions env fs o

end ChartLint
