import ChartLint.Index
import ChartLint.Settings

/-!
# Scripts under analysis

A script is its text together with what was read off it: the outline and the index.  The settings
under which it was read are kept with it, since the width of a tab decides columns.

The linter works on what `Script.read` gives, with columns in machine words.  `Script.ofSource` is the
script with columns that are counted without bound.  The two are the same as long as no column
overflows.
-/

namespace ChartLint

/-- A script and what is known of it. -/
structure Script where
  /-- The text. -/
  source : String
  /-- The settings of the analysis. -/
  settings : Settings
  /-- Tokens, statements and calls. -/
  outline : Outline
  /-- Declarations, references and functions. -/
  index : Index

namespace Script

/-- The script of an outline. -/
def ofOutline (source : String) (settings : Settings) (outline : Outline) : Script :=
  ⟨source, settings, outline, Index.ofOutline outline⟩

/-- The script of a text. -/
def ofSource (source : String) (settings : Settings) : Script :=
  ofOutline source settings (Outline.ofSource source settings.tabWidth)

/-- Read a script. -/
def read (source : String) (settings : Settings) : Script :=
  ofOutline source settings (Outline.read source settings.tabWidth)

end Script

end ChartLint
