import ChartLint.Toml

/-!
# Building tables

The entries of a document are added one by one, and every addition says where a table may be
reached from.

*Headers* pass through any table that is not written in braces, and through the last of the tables
under a double header.  The table at the end of a single header is new, or so far stood on the way
of other headers only.

*Dotted keys* pass through tables that came to be by dotted keys, and through those on the way of
headers; but they add a key only to a table of the former kind.

No key is given twice.
-/

namespace ChartLint

namespace Toml

/-- Entries in which a key has the value that `f` makes of the value it has. -/
def alter (key : String) (f : Option Toml → Option Toml) (entries : List (String × Toml)) :
    Option (List (String × Toml)) :=
  match entries with
  | [] => (f none).map fun v => [(key, v)]
  | (k, v) :: rest =>
    if k = key then (f (some v)).map fun v => (k, v) :: rest
    else (alter key f rest).map ((k, v) :: ·)

/-- Change the entries of the table that a header leads to.  Tables on the way are made. -/
def within (f : List (String × Toml) → Option (List (String × Toml))) :
    List String → List (String × Toml) → Option (List (String × Toml))
  | [], entries => f entries
  | key :: keys, entries => alter key (fun
      | none => (within f keys []).map (.table .passage ·)
      | some (.table .braces _) => none
      | some (.table origin inner) => (within f keys inner).map (.table origin ·)
      | some (.tables earlier last) => (within f keys last).map (.tables earlier ·)
      | some _ => none) entries

/-- Give a table its header. -/
def addTable (header : List String) (entries : List (String × Toml)) :
    Option (List (String × Toml)) := do
  let key ← header.getLast?
  within (alter key fun
    | none => some (.table .header [])
    | some (.table .passage inner) => some (.table .header inner)
    | some _ => none) header.dropLast entries

/-- Add a table under a double header. -/
def addToTables (header : List String) (entries : List (String × Toml)) :
    Option (List (String × Toml)) := do
  let key ← header.getLast?
  within (alter key fun
    | none => some (.tables [] [])
    | some (.tables earlier last) => some (.tables (earlier ++ [last]) [])
    | some _ => none) header.dropLast entries

/-- Add a value under a dotted key.  `own` tells whether keys may be added to these entries. -/
def addValue (value : Toml) : Bool → List String → List (String × Toml) →
    Option (List (String × Toml))
  | _, [], _ => none
  | own, [key], entries => alter key (fun old => if own && old.isNone then some value else none) entries
  | _, key :: keys, entries => alter key (fun
      | none => (addValue value true keys []).map (.table .dotted ·)
      | some (.table .dotted inner) => (addValue value true keys inner).map (.table .dotted ·)
      | some (.table .passage inner) => (addValue value false keys inner).map (.table .passage ·)
      | some (.tables earlier last) => (addValue value false keys last).map (.tables earlier ·)
      | some _ => none) entries

end Toml

end ChartLint
