/-!
# JSON values

The values of the data format of the run log and of one of the reports.

A string of the format may name half of a surrogate pair, which is no character.  Such a string is a
value of the format but no text, and it is kept as `none`.  A number is kept as an integer if it is
written as one and fits into sixty-four bits, with a sign or without; any other number is kept as it
is written.  The members of an object are kept in order, with repetitions.
-/

namespace ChartLint

/-- A JSON value. -/
inductive Json where
  /-- The value `null`. -/
  | null
  /-- A truth value. -/
  | bool (value : Bool)
  /-- An integer. -/
  | int (value : Int)
  /-- A number that is no integer, or too large. -/
  | decimal (spelling : List Char)
  /-- A string; `none` if it is no text. -/
  | string (text : Option String)
  /-- A list of values. -/
  | array (items : List Json)
  /-- Names and values. -/
  | object (members : List (Option String × Json))
deriving Repr, Inhabited

namespace Json

/-- A string that is a text. -/
def text (s : String) : Json := .string (some s)

/-- A natural number. -/
def nat (n : Nat) : Json := .int n

/-- Does an integer fit into sixty-four bits, with a sign or without? -/
def fits (n : Int) : Bool :=
  -0x8000000000000000 ≤ n && n < 0x10000000000000000

/-- The integer of a value. -/
def int? : Json → Option Int
  | .int n => some n
  | _ => none

/-- The natural number of a value. -/
def nat? : Json → Option Nat
  | .int n => if 0 ≤ n then some n.toNat else none
  | _ => none

/-- The text of a value. -/
def text? : Json → Option String
  | .string s => s
  | _ => none

/-- The items of a value. -/
def items? : Json → Option (List Json)
  | .array items => some items
  | _ => none

end Json

end ChartLint
