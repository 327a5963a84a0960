/-!
# The vocabulary of chart scripts

The words that mean something to the linter: reserved words, the namespaces of builtin functions,
the words that open blocks and the ones that qualify a declaration.  The style guide that the linter
enforces also asks for one shape of name, upper snake case, which marks a constant.
-/

namespace ChartLint

namespace Vocabulary

/-- Namespaces of builtin functions and values.  A dotted name that starts with one of them is no
use of a name of the script. -/
def builtinNamespaces : List String :=
  ["color", "ta", "math", "str", "input", "array", "matrix", "map", "request", "strategy",
   "syminfo", "barstate", "timeframe", "session", "line", "label", "box", "table", "linefill",
   "polyline", "chart", "plot", "hline", "shape", "location", "size", "position", "format",
   "scale", "display", "extend", "xloc", "yloc", "text", "font", "order", "currency",
   "dividends", "earnings", "splits", "adjustment", "backadjustment", "barmerge", "alert",
   "runtime", "log", "ticker", "dayofweek", "settlement_as_close"]

/-- Words that may stand in front of a declared name. -/
def qualifiers : List String := ["var", "varip", "const", "simple", "series"]

/-- Words that start a statement which is never an assignment. -/
def blockKeywords : List String := ["if", "else", "for", "while", "switch", "type", "import"]

/-- Words that open an indented block. -/
def blockOpeners : List String := ["if", "else", "for", "while", "switch"]

/-- Reserved words and the names of builtin types.  None of them is a name of the script. -/
def keywords : List String :=
  ["if", "else", "for", "to", "by", "in", "while", "switch", "var", "varip", "const", "simple",
   "series", "true", "false", "na", "break", "continue", "import", "export", "method", "type",
   "and", "or", "not", "int", "float", "bool", "string", "color", "line", "label", "box",
   "table", "array", "matrix", "map", "linefill", "polyline"]

/-- Words in front of the name in a function header. -/
def functionPrefixes : List String := ["method", "export"]

/-- Operators that assign. -/
def assignmentOperators : List String := ["=", ":=", "+=", "-=", "*=", "/=", "%="]

/-- Operators that continue a statement when they start a line. -/
def leadingOperators : List String :=
  ["+", "-", "*", "/", "%", "or", "and", "?", ":", "==", "!=", "<", ">", "<=", ">=", "=", ":="]

end Vocabulary

/-- May the character stand in an upper snake case name behind the first place? -/
def isUpperSnakeChar (c : Char) : Bool :=
  c.isUpper || c.isDigit || c == '_'

/-- Is the name in upper snake case?  It is made of capital English letters, digits and underscores,
holds a letter, and does not start with a digit. -/
def isUpperSnake (name : String) : Bool :=
  match name.toList with
  | [] => false
  | first :: rest =>
    (first.isUpper || first == '_') && (first :: rest).any Char.isUpper && rest.all isUpperSnakeChar

end ChartLint
