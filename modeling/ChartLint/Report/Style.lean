/-!
# Styles of text on a terminal

A style makes text bold or dim and gives it a color.  Styled text stands between a control sequence
that starts the style and one that ends all styles.  If the text itself ends all styles somewhere,
the style is started again right behind that.
-/

namespace ChartLint

/-- Colors of text. -/
inductive Color where
  /-- Red. -/
  | red
  /-- Green. -/
  | green
  /-- Yellow. -/
  | yellow
  /-- Cyan. -/
  | cyan
  /-- White. -/
  | white
  /-- Bright green. -/
  | brightGreen
  /-- Bright white. -/
  | brightWhite
deriving DecidableEq, Repr

/-- The code of a color. -/
def Color.code : Color → String
  | .red => "31"
  | .green => "32"
  | .yellow => "33"
  | .cyan => "36"
  | .white => "37"
  | .brightGreen => "92"
  | .brightWhite => "97"

/-- A style of text. -/
structure Style where
  /-- Bold text. -/
  bold : Bool := false
  /-- Dim text. -/
  dim : Bool := false
  /-- The color of the text. -/
  color : Option Color := none
deriving DecidableEq, Repr, Inhabited

namespace Style

/-- The style of a color. -/
def ofColor (c : Color) : Style :=
  { color := some c }

/-- The style of a color in bold text. -/
def boldColor (c : Color) : Style :=
  { bold := true, color := some c }

/-- Bold text. -/
def strong : Style := { bold := true }

/-- Dim text. -/
def faint : Style := { dim := true }

/-- The codes of a style. -/
def codes (s : Style) : List String :=
  (if s.bold then ["1"] else []) ++ (if s.dim then ["2"] else [])
    ++ (s.color.map Color.code).toList

/-- The control sequence that starts a style. -/
def start (s : Style) : String :=
  "\x1b[" ++ ";".intercalate s.codes ++ "m"

/-- The control sequence that ends all styles. -/
def stop : String := "\x1b[0m"

/-- Text in a style; text as it is without colors. -/
def paint (s : Style) (colored : Bool) (text : String) : String :=
  if colored && !s.codes.isEmpty then s.start ++ text.replace stop (stop ++ s.start) ++ stop
  else text

end Style

/-! ## Columns -/

/-- Text with blanks behind it up to a width. -/
def padRight (width : Nat) (text : String) : String :=
  text ++ String.ofList (List.replicate (width - text.length) ' ')

/-- Text with blanks in front of it up to a width. -/
def padLeft (width : Nat) (text : String) : String :=
  String.ofList (List.replicate (width - text.length) ' ') ++ text

end ChartLint
