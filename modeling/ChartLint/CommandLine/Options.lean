import ChartLint.Text.Split

/-!
# Options of the command line

Arguments are read from left to right, and the first fault counts.  Asking for the version or for
help ends the reading where it stands.

* An argument that starts with two hyphens is an option.  Its value follows an equality sign or is
  the next argument, unless that one starts with a hyphen; a hyphen by itself is a value.
* An argument that starts with one hyphen is a row of letters, each of which is a flag.
* Two hyphens by themselves end the options.
* Everything else is a path.

Lists are divided by commas and may be given in several parts.  All other options and all flags may
be given once.
-/

namespace ChartLint

/-- The form of the report. -/
inductive ReportFormat where
  /-- A line for each finding. -/
  | text
  /-- Findings by rule, with explanations. -/
  | grouped
  /-- Findings by rule as a JSON value. -/
  | json
deriving DecidableEq, Repr

/-- The format of that name. -/
def ReportFormat.ofName? : String → Option ReportFormat
  | "text" => some .text
  | "grouped" => some .grouped
  | "json" => some .json
  | _ => none

/-- What a run is asked to do. -/
structure Options where
  /-- Files and directories. -/
  paths : List String := []
  /-- Rules to switch on. -/
  enable : List String := []
  /-- Rules to switch off. -/
  disable : List String := []
  /-- Paths to pass over. -/
  exclude : List String := []
  /-- Further control inputs. -/
  controlInputs : List String := []
  /-- The form of the report. -/
  format : Option ReportFormat := none
  /-- A configuration file to use. -/
  config : Option String := none
  /-- Use no configuration file. -/
  noConfig : Bool := false
  /-- A run log to add to. -/
  logFile : Option String := none
  /-- A run log to report on. -/
  stats : Option String := none
  /-- Say more. -/
  verbose : Bool := false
deriving DecidableEq, Repr, Inhabited

/-- Why arguments cannot be understood. -/
inductive UsageError where
  /-- There is no such option. -/
  | unknownOption (argument : String)
  /-- The value of an option is missing. -/
  | missingValue (option : String)
  /-- A flag is given a value. -/
  | unexpectedValue (option : String)
  /-- The value of an option is not one of those it may have. -/
  | invalidValue (option value : String)
  /-- An option is given twice. -/
  | repeated (option : String)
  /-- Two options exclude each other. -/
  | conflict (option other : String)
deriving DecidableEq, Repr

/-- What is wrong with the arguments, in words. -/
def UsageError.message : UsageError → String
  | .unknownOption argument => "unexpected argument '" ++ argument ++ "' found"
  | .missingValue option => "a value is required for '" ++ option ++ "' but none was supplied"
  | .unexpectedValue option => "a value was given for '" ++ option ++ "' but none is expected"
  | .invalidValue option value => "invalid value '" ++ value ++ "' for '" ++ option ++ "'"
  | .repeated option => "the argument '" ++ option ++ "' cannot be used multiple times"
  | .conflict option other =>
    "the argument '" ++ option ++ "' cannot be used with '" ++ other ++ "'"

/-- What the arguments ask for. -/
inductive Request where
  /-- The version. -/
  | version
  /-- A list of the options. -/
  | help
  /-- A run. -/
  | run (options : Options)
deriving DecidableEq, Repr

namespace Options

/-- The option that takes a value, by its name. -/
inductive ValueOption where
  /-- Rules to switch on. -/
  | enable
  /-- Rules to switch off. -/
  | disable
  /-- Paths to pass over. -/
  | exclude
  /-- Control inputs. -/
  | controlInput
  /-- The form of the report. -/
  | outputFormat
  /-- A configuration file. -/
  | config
  /-- A run log to add to. -/
  | logFile
  /-- A run log to report on. -/
  | stats
deriving DecidableEq, Repr

/-- The flag, by its name or its letter. -/
inductive Flag where
  /-- No configuration file. -/
  | noConfig
  /-- Say more. -/
  | verbose
  /-- The version. -/
  | version
  /-- A list of the options. -/
  | help
deriving DecidableEq, Repr

/-- The option of that name that takes a value. -/
def valueOption? : String → Option ValueOption
  | "--enable" => some .enable
  | "--disable" => some .disable
  | "--exclude" => some .exclude
  | "--control-input" => some .controlInput
  | "--output-format" => some .outputFormat
  | "--config" => some .config
  | "--log-file" => some .logFile
  | "--stats" => some .stats
  | _ => none

/-- The flag of that name. -/
def flag? : String → Option Flag
  | "--no-config" => some .noConfig
  | "--verbose" => some .verbose
  | "-v" => some .verbose
  | "--version" => some .version
  | "-V" => some .version
  | "--help" => some .help
  | "-h" => some .help
  | _ => none

/-- Give an option its one value. -/
def once {α : Type} (name : String) (old : Option α) (value : α) : Except UsageError (Option α) :=
  if old.isSome then .error (.repeated name) else .ok (some value)

/-- A path that is not empty. -/
def pathValue (name value : String) : Except UsageError String :=
  if value = "" then .error (.invalidValue name value) else .ok value

/-- The format that a value names. -/
def formatValue (name value : String) : Except UsageError ReportFormat :=
  match ReportFormat.ofName? value with
  | some format => .ok format
  | none => .error (.invalidValue name value)

/-- Options with a value for an option. -/
def assign (o : Options) (option : ValueOption) (name value : String) : Except UsageError Options :=
  match option with
  | .enable => .ok { o with enable := o.enable ++ Text.split ',' value }
  | .disable => .ok { o with disable := o.disable ++ Text.split ',' value }
  | .exclude => .ok { o with exclude := o.exclude ++ Text.split ',' value }
  | .controlInput => .ok { o with controlInputs := o.controlInputs ++ Text.split ',' value }
  | .outputFormat => do
    return { o with format := ← once name o.format (← formatValue name value) }
  | .config => do return { o with config := ← once name o.config (← pathValue name value) }
  | .logFile => do return { o with logFile := ← once name o.logFile value }
  | .stats => do return { o with stats := ← once name o.stats (← pathValue name value) }

/-- The effect of a flag: options with it, or a request that ends the reading. -/
def raise (o : Options) (flag : Flag) (name : String) : Except UsageError (Options ⊕ Request) :=
  match flag with
  | .version => .ok (.inr .version)
  | .help => .ok (.inr .help)
  | .noConfig =>
    if o.noConfig then .error (.repeated name) else .ok (.inl { o with noConfig := true })
  | .verbose =>
    if o.verbose then .error (.repeated name) else .ok (.inl { o with verbose := true })

/-- The effect of a row of letters. -/
def raiseAll (o : Options) (argument : String) : List Char → Except UsageError (Options ⊕ Request)
  | [] => .ok (.inl o)
  | c :: cs =>
    let name := String.ofList ['-', c]
    match flag? name with
    | none => .error (.unknownOption argument)
    | some flag =>
      match o.raise flag name with
      | .ok (.inl o) => o.raiseAll argument cs
      | other => other

/-- May the argument be the value of the option in front of it? -/
def isValue (argument : String) : Bool :=
  !argument.startsWith "-" || argument == "-"

/-- The name of an option and the value behind the equality sign. -/
def splitValue (argument : String) : String × Option String :=
  match argument.toList.span (· != '=') with
  | (_, []) => (argument, none)
  | (name, _ :: value) => (String.ofList name, some (String.ofList value))

/-- The request when all arguments are read. -/
def finish (o : Options) : Except UsageError Request :=
  if o.noConfig && o.config.isSome then .error (.conflict "--config" "--no-config")
  else .ok (.run (if o.paths.isEmpty then { o with paths := ["."] } else o))

/-- Read arguments, given the options so far. -/
def readArguments (o : Options) (arguments : List String) : Except UsageError Request :=
  match arguments with
  | [] => o.finish
  | argument :: rest =>
    if argument = "--" then finish { o with paths := o.paths ++ rest }
    else if isValue argument then readArguments { o with paths := o.paths ++ [argument] } rest
    else if !argument.startsWith "--" then
      match o.raiseAll argument (argument.toList.drop 1) with
      | .error e => .error e
      | .ok (.inr request) => .ok request
      | .ok (.inl o) => readArguments o rest
    else
      match splitValue argument with
      | (name, value?) =>
        match flag? name, valueOption? name, value?, rest with
        | some flag, _, none, rest =>
          match o.raise flag name with
          | .error e => .error e
          | .ok (.inr request) => .ok request
          | .ok (.inl o) => readArguments o rest
        | some _, _, some _, _ => .error (.unexpectedValue name)
        | none, none, _, _ => .error (.unknownOption argument)
        | none, some option, some value, rest =>
          match o.assign option name value with
          | .error e => .error e
          | .ok o => readArguments o rest
        | none, some _, none, [] => .error (.missingValue name)
        | none, some option, none, value :: rest =>
          if isValue value then
            match o.assign option name value with
            | .error e => .error e
            | .ok o => readArguments o rest
          else .error (.missingValue name)
termination_by arguments.length

/-- What the arguments ask for. -/
def parse (arguments : List String) : Except UsageError Request :=
  readArguments {} arguments

end Options

end ChartLint
