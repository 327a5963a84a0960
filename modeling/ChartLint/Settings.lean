/-!
# Settings of the analysis

What the author of a script may tune: widths, the calls that build colors, the calls that show
something, and which inputs are independent controls.
-/

namespace ChartLint

/-- Settings of the analysis. -/
structure Settings where
  /-- How far a continuation line is indented past its statement. -/
  continuationIndent : Nat := 2
  /-- The columns of a tab. -/
  tabWidth : Nat := 1
  /-- Tooltips shorter than this may stand in the code. -/
  tooltipMaxLength : Nat := 100
  /-- The calls that build a color. -/
  colorConstructors : List String := ["color.rgb", "color.new"]
  /-- Names of inputs that each drive one display. -/
  controlInputs : List String := []
  /-- Regular expressions for the names of further such inputs. -/
  controlInputPatterns : List String := []
  /-- The calls that put something on the chart or raise an alert. -/
  outputCalls : List String :=
    ["plot", "plotshape", "plotchar", "plotarrow", "plotbar", "plotcandle", "bgcolor", "barcolor",
     "fill", "hline", "alert", "alertcondition", "label.new", "line.new", "box.new", "table.cell"]
deriving DecidableEq, Repr, Inhabited

namespace Settings

/-- Does a call of that name build a color? -/
def isColorConstructor (s : Settings) (name : String) : Bool :=
  s.colorConstructors.contains name

/-- Does a call of that name show something? -/
def isOutputCall (s : Settings) (name : String) : Bool :=
  s.outputCalls.contains name

end Settings

end ChartLint
