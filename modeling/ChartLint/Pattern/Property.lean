import ChartLint.Pattern.Cursor
import ChartLint.Text.WritingSystem

/-!
# Properties of characters

The escapes `\p` and `\P` name a property of characters: a general category, a writing system or a
trait.  The name is one letter, or it stands in braces.  A category or a writing system may also be
given as the value of its property, as in `\p{script=Greek}`.

Names are compared without regard to case, blanks, underscores and hyphens, and an `is` in front of
a name counts for nothing.
-/

namespace ChartLint.Pattern

/-- The property that an escape asks for. -/
inductive Property where
  /-- A property by its name. -/
  | named (name : List Char)
  /-- A value of a property. -/
  | valued (name value : List Char)

namespace Property

/-- A name as it is compared.  What is left of `isc` is not the name of a category. -/
def normalized (name : List Char) : String :=
  let plain (cs : List Char) : List Char :=
    (cs.filter fun c => c.toNat < 0x80 && c != ' ' && c != '_' && c != '-').map Char.toLower
  match name with
  | i :: s :: rest =>
    if i.toLower = 'i' ∧ s.toLower = 's' then
      if plain rest = ['c'] then "isc" else String.ofList (plain rest)
    else String.ofList (plain name)
  | _ => String.ofList (plain name)

/-- The names of the blanks. -/
def blankNames : List String := ["whitespace", "wspace", "space"]

/-- Categories and writing systems that no character has. -/
def vacantNames : List String := ["cs", "surrogate", "unknown", "zzzz", "katakanaorhiragana", "hrkt"]

/-- The characters of every category. -/
def assigned : CharSet := .ofCategories (Text.generalCategories.map (·.1))

/-- The characters of a category by its name. -/
def category? (name : String) : Option CharSet :=
  match name with
  | "any" => some CharSet.none.negate
  | "ascii" => some .ascii
  | "assigned" => some assigned
  | "cn" | "unassigned" => some assigned.negate
  | "c" | "other" => some ((CharSet.ofCategories ["Cc", "Cf", "Co"]).union assigned.negate)
  | _ => (Text.categoryNames.find? (·.1.contains name)).map fun (_, codes) => .ofCategories codes

/-- The characters of a writing system by its name. -/
def writingSystem? (name : String) : Option CharSet :=
  (Text.writingSystems.find? (·.1.contains name)).map fun (_, lines) => .ofRanges (Text.rangesOfText lines)

/-- The characters with a trait by its name.  Three names belong to categories first. -/
def trait? (name : String) : Option CharSet :=
  if ["cf", "sc", "lc"].contains name then none
  else if blankNames.contains name then some .blank
  else CharSet.trait? name

/-- The characters that have a property. -/
def chars : Property → Except Flaw CharSet
  | named name =>
    let name := normalized name
    match trait? name <|> category? name <|> writingSystem? name with
    | some s => .ok s
    | none => .error (if vacantNames.contains name then .unknownPropertyValue else .unknownProperty)
  | valued name value =>
    let found := match normalized name with
      | "gc" | "generalcategory" => some (category? (normalized value))
      | "sc" | "script" => some (writingSystem? (normalized value))
      | name => if (trait? name).isSome then some none else none
    match found with
    | some (some s) => .ok s
    | some none => .error .unknownPropertyValue
    | none => .error .unknownProperty

/-- What stands in braces as a property.  The first of `!=`, `:` and `=` in this order divides the
name from the value. -/
def ofBraced (text : List Char) : Property :=
  match cut ['!', '='] text <|> cut [':'] text <|> cut ['='] text with
  | some (name, value) => .valued name value
  | none => .named text
where
  /-- What stands before the first occurrence of a mark, and what stands behind it. -/
  cut (mark : List Char) : List Char → Option (List Char × List Char)
    | [] => none
    | c :: cs =>
      if mark.isPrefixOf (c :: cs) then some ([], (c :: cs).drop mark.length)
      else (cut mark cs).map fun (name, value) => (c :: name, value)

/-- What stands in braces, up to the closing one.  `fuel` is at least the number of characters. -/
def readBraced (m : Mode) : Nat → List Char → Cursor → Except PatternError (List Char × Cursor)
  | 0, _, k => flawAt .unfinishedEscape k.here
  | fuel + 1, text, k =>
    match k.head? with
    | none => flawAt .unfinishedEscape k.here
    | some '\x7d' => .ok (text.reverse, k)
    | some c => readBraced m fuel (c :: text) (k.step m)

/-- A property behind the letter of its escape, and what follows it. -/
def read (m : Mode) (letter : Cursor) : Except PatternError (Property × Cursor) :=
  let k := letter.step m
  match k.head? with
  | none => flawAt .unfinishedEscape k.here
  | some '\x7b' => do
    let (text, close) ← readBraced m (k.rest.length + 1) [] (k.step m)
    return (ofBraced text, close.next)
  | some '\\' => flawAt .badProperty k.char
  | some c => .ok (.named [c], k.step m)

end Property

end ChartLint.Pattern
