/-!
# TOML values

The values of the format of configuration files.  Nothing in a configuration is a broken number or a
date, so these are kept as they are written.

A table is remembered with the way it came to be, because that decides what may be added to it: a
table in braces is finished, a table with a header of its own takes no dotted keys from outside, and
a table that so far only stood on the way to another one may still get its header.
-/

namespace ChartLint

/-- How a table came to be. -/
inductive TableOrigin where
  /-- It is written in braces. -/
  | braces
  /-- It has a header of its own. -/
  | header
  /-- It stands on the way of the header of another table. -/
  | passage
  /-- It stands on the way of a dotted key. -/
  | dotted
deriving DecidableEq, Repr

/-- A TOML value. -/
inductive Toml where
  /-- A string. -/
  | string (text : String)
  /-- An integer. -/
  | integer (value : Int)
  /-- A number with a fraction or an exponent, an infinity, or no number. -/
  | float (spelling : List Char)
  /-- A truth value. -/
  | boolean (value : Bool)
  /-- A date, a time, or both. -/
  | datetime (spelling : List Char)
  /-- A list of values. -/
  | array (items : List Toml)
  /-- Keys and values. -/
  | table (origin : TableOrigin) (entries : List (String × Toml))
  /-- Tables that share a header in double brackets. -/
  | tables (earlier : List (List (String × Toml))) (last : List (String × Toml))
deriving Repr, Inhabited

namespace Toml

/-- The value of a key. -/
def get? (key : String) (entries : List (String × Toml)) : Option Toml :=
  entries.lookup key

/-- The text of a value. -/
def text? : Toml → Option String
  | .string s => some s
  | _ => none

/-- The natural number of a value. -/
def nat? : Toml → Option Nat
  | .integer n => if 0 ≤ n then some n.toNat else none
  | _ => none

/-- The texts of a list of strings. -/
def texts? : Toml → Option (List String)
  | .array items => items.mapM text?
  | _ => none

end Toml

end ChartLint
