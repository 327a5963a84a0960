import ChartLint.Settings
import ChartLint.Toml.Reader

/-!
# Configurations

A configuration names rules to switch on and off, paths to pass over, and settings of the analysis.
Everything in it is optional, and keys that are not known are ignored; a known key with a value of
the wrong kind makes the whole configuration malformed.

The settings form a table.  They may also be given as a list in a fixed order, of which any number
at the end may be missing.
-/

namespace ChartLint

/-- What a configuration file says. -/
structure Config where
  /-- Rules to switch on. -/
  enable : List String := []
  /-- Rules to switch off. -/
  disable : List String := []
  /-- Paths to pass over. -/
  exclude : List String := []
  /-- Settings of the analysis. -/
  settings : Settings := {}
deriving DecidableEq, Repr, Inhabited

/-- What a value stands for, or something else if there is no value. -/
def Toml.orElse {α : Type} (read : Toml → Option α) (missing : α) : Option Toml → Option α
  | none => some missing
  | some v => read v

/-- The names of the settings in their order. -/
def Settings.keys : List String :=
  ["continuation_indent", "tab_width", "tooltip_max_length", "color_constructors", "control_inputs",
   "control_input_patterns", "output_calls"]

/-- Settings from what is said under each name. -/
def Settings.ofValues? (value : String → Option Toml) : Option Settings := do
  let d : Settings := {}
  let continuationIndent ← Toml.orElse Toml.nat? d.continuationIndent (value "continuation_indent")
  let tabWidth ← Toml.orElse Toml.nat? d.tabWidth (value "tab_width")
  let tooltipMaxLength ← Toml.orElse Toml.nat? d.tooltipMaxLength (value "tooltip_max_length")
  let colorConstructors ← Toml.orElse Toml.texts? d.colorConstructors (value "color_constructors")
  let controlInputs ← Toml.orElse Toml.texts? d.controlInputs (value "control_inputs")
  let controlInputPatterns ←
    Toml.orElse Toml.texts? d.controlInputPatterns (value "control_input_patterns")
  let outputCalls ← Toml.orElse Toml.texts? d.outputCalls (value "output_calls")
  return { continuationIndent, tabWidth, tooltipMaxLength, colorConstructors, controlInputs,
           controlInputPatterns, outputCalls }

/-- Settings from a value: a table, a list in the order of the names, or a date, which says nothing
about any of them. -/
def Settings.ofToml? : Toml → Option Settings
  | .table _ entries => ofValues? (Toml.get? · entries)
  | .array items => ofValues? (Toml.get? · (keys.zip items))
  | .datetime _ => some {}
  | _ => none

namespace Config

/-- A configuration from the entries of a document. -/
def ofEntries? (entries : List (String × Toml)) : Option Config := do
  let enable ← Toml.orElse Toml.texts? [] (Toml.get? "enable" entries)
  let disable ← Toml.orElse Toml.texts? [] (Toml.get? "disable" entries)
  let exclude ← Toml.orElse Toml.texts? [] (Toml.get? "exclude" entries)
  let settings ← Toml.orElse Settings.ofToml? {} (Toml.get? "check" entries)
  return { enable, disable, exclude, settings }

/-- The configuration that a text writes. -/
def read (text : String) : Option Config :=
  (Toml.read text).bind ofEntries?

end Config

end ChartLint
