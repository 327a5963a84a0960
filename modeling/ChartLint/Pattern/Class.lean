import ChartLint.Pattern.Escape
import ChartLint.Pattern.Layers

/-!
# Classes in brackets

A class lists characters, ranges, escapes, named classes such as `[:alpha:]`, and other classes in
brackets.  The operators `&&`, `--` and `~~` stand for the characters in both operands, in the first
and not in the second, and in exactly one of them; they bind weaker than the list and are taken from
left to right.  A `^` behind the opening bracket asks for the complement.  A `-` that comes first, or
last, is a member, and so is a `]` that comes first.

Where case does not count, operands are closed under case before an operator is applied, and a class
is before its complement is taken.
-/

namespace ChartLint.Pattern

/-- Something in a class. -/
structure Item where
  /-- Its characters. -/
  set : CharSet
  /-- Where it stands. -/
  span : Span
  /-- How it is nested. -/
  layers : Layers
  /-- What is wrong with it although it is well formed. -/
  flaw : Option PatternError

/-- A list of items. -/
structure Items where
  /-- How many they are. -/
  count : Nat
  /-- All of them as one. -/
  item : Item

namespace Items

/-- No items, at a place. -/
def none (k : Cursor) : Items := ⟨0, ⟨.none, k.here, [], Option.none⟩⟩

/-- One item more. -/
def push (is : Items) (i : Item) : Items where
  count := is.count + 1
  item :=
    { set := is.item.set.union i.set
      span := ⟨if is.count = 0 then i.span.start else is.item.span.start, i.span.stop⟩
      layers := is.item.layers.beside i.layers
      flaw := is.item.flaw <|> i.flaw }

/-- The list as one item.  Several items are a construct of their own. -/
def toItem (is : Items) : Item :=
  if is.count < 2 then is.item
  else { is.item with layers := is.item.span :: is.item.layers }

end Items

/-- An operator between lists of items. -/
inductive SetOperator where
  /-- The characters of both. -/
  | inter
  /-- The characters of the first that are not in the second. -/
  | difference
  /-- The characters of exactly one. -/
  | symmetricDifference

/-- What an operator makes of two sets. -/
def SetOperator.apply : SetOperator → CharSet → CharSet → CharSet
  | inter => CharSet.inter
  | difference => CharSet.difference
  | symmetricDifference => CharSet.symmetricDifference

/-- The operator that follows. -/
def operator? (k : Cursor) : Option SetOperator :=
  match k.rest with
  | '&' :: '&' :: _ => some .inter
  | '-' :: '-' :: _ => some .difference
  | '~' :: '~' :: _ => some .symmetricDifference
  | _ => none

/-- A class that is open. -/
structure OpenClass where
  /-- The place of its bracket. -/
  start : Nat
  /-- From its bracket to its first item. -/
  opening : Span
  /-- Is the complement asked for? -/
  negated : Bool
  /-- What stands in front of the operator that was read last. -/
  operand : Option (SetOperator × Item)
  /-- The items behind that operator. -/
  items : Items

namespace OpenClass

/-- What the class holds so far: its operators applied to its items. -/
def toItem (m : Mode) (c : OpenClass) : Item :=
  let right := c.items.toItem
  match c.operand with
  | none => right
  | some (op, left) =>
    let span : Span := ⟨left.span.start, right.span.stop⟩
    { set := op.apply (m.close left.set) (m.close right.set)
      span
      layers := span :: left.layers.beside right.layers
      flaw := left.flaw <|> right.flaw }

/-- The class with its closing bracket before a place. -/
def close (m : Mode) (c : OpenClass) (k : Cursor) : Item :=
  let inner := c.toItem m
  let span := k.since c.start
  let set := m.close inner.set
  let own : Option PatternError :=
    if m.ascii && c.negated then some (.flawed .partOfCharacter span none) else none
  { set := if c.negated then set.negate else set
    span
    layers := span :: inner.layers
    flaw := inner.flaw <|> own }

/-- The class with an operator, before a place. -/
def operate (m : Mode) (op : SetOperator) (c : OpenClass) (k : Cursor) : OpenClass :=
  { c with operand := some (op, c.toItem m), items := .none k }

/-- The class with one item more. -/
def push (c : OpenClass) (i : Item) : OpenClass := { c with items := c.items.push i }

end OpenClass

/-! ## Items -/

/-- A plain character. -/
def charItem (m : Mode) (c : Char) (byte : Bool) (span : Span) : Item where
  set := .single c
  span
  layers := []
  flaw :=
    if m.ascii && 0x80 ≤ c.toNat then
      some (.flawed (if byte then .partOfCharacter else .beyondAscii) span none)
    else none

/-- One end of a range, or an item that cannot be one. -/
def readEnd (m : Mode) (k : Cursor) : Except PatternError (Escape × Cursor) :=
  match k.head? with
  | some '\\' => Escape.read m k
  | some c => .ok (.char c false, k.next)
  | none => flawAt .unclosedClass k.here

/-- The item that an escape stands for. -/
def escapeItem (m : Mode) (span : Span) : Escape → Except PatternError Item
  | .char c byte => .ok (charItem m c byte span)
  | .set set flaw => .ok ⟨set, span, [], flaw.map (.flawed · span none)⟩
  | .anchor _ => flawAt .anchorInClass span

/-- The character that an escape stands for. -/
def endChar (span : Span) : Escape → Except PatternError (Char × Bool)
  | .char c byte => .ok (c, byte)
  | _ => flawAt .rangeOfClass span

/-- A character, an escape or a range, and what follows it.  `opening` is to blame if nothing does. -/
def readItem (m : Mode) (opening : Span) (k : Cursor) : Except PatternError (Item × Cursor) := do
  let (first, behind) ← readEnd m k
  let span := behind.since k.place
  let minus := behind.skip m
  if minus.atEnd then flawAt .unclosedClass opening
  else if minus.head? ≠ some '-' ∨ minus.second? m = some ']' ∨ minus.second? m = some '-' then
    let item ← escapeItem m span first
    return (item, minus)
  else
    let k' := minus.step m
    if k'.atEnd then flawAt .unclosedClass opening
    else
      let (last, behind') ← readEnd m k'
      let span' := behind'.since k'.place
      let (a, byteA) ← endChar span first
      let (b, byteB) ← endChar span' last
      let whole := behind'.since k.place
      if b < a then flawAt .reversedRange whole
      else
        let flaw := (charItem m a byteA span).flaw <|> (charItem m b byteB span').flaw
        return (⟨.range a b, whole, [], flaw⟩, behind')

/-- The characters of a named class. -/
def namedClass? (name : String) : Option CharSet :=
  match name with
  | "alnum" => some (.union .asciiLetter .asciiDigit)
  | "alpha" => some .asciiLetter
  | "ascii" => some .ascii
  | "blank" => some (.union (.single '\t') (.single ' '))
  | "cntrl" => some ⟨[⟨0, 0x1F⟩, ⟨0x7F, 0x7F⟩]⟩
  | "digit" => some .asciiDigit
  | "graph" => some (.range '!' '~')
  | "lower" => some (.range 'a' 'z')
  | "print" => some (.range ' ' '~')
  | "punct" => some ⟨[⟨0x21, 0x2F⟩, ⟨0x3A, 0x40⟩, ⟨0x5B, 0x60⟩, ⟨0x7B, 0x7E⟩]⟩
  | "space" => some .asciiBlank
  | "upper" => some (.range 'A' 'Z')
  | "word" => some .asciiWord
  | "xdigit" => some ⟨[⟨0x30, 0x39⟩, ⟨0x41, 0x46⟩, ⟨0x61, 0x66⟩]⟩
  | _ => none

/-- A named class at its bracket, and what follows it. -/
def namedItem? (m : Mode) (k : Cursor) : Option (Item × Cursor) := do
  let inside ← k.after? "[:"
  let negated := inside.head? = some '^'
  let inside := if negated then inside.next else inside
  let name := inside.rest.takeWhile (· ≠ ':')
  let behind ← (inside.drop name.length).after? ":]"
  let set ← namedClass? (String.ofList name)
  let span := behind.since k.place
  let set := m.close set
  let flaw : Option PatternError :=
    if m.ascii && negated then some (.flawed .partOfCharacter span none) else none
  return (⟨if negated then set.negate else set, span, [], flaw⟩, behind)

/-! ## Brackets -/

/-- The minus signs that a class starts with.  `fuel` is at least the number of characters. -/
def readMinuses (m : Mode) (start : Nat) : Nat → Items → Cursor → Except PatternError (Items × Cursor)
  | 0, _, k => flawAt .unclosedClass (k.since start)
  | fuel + 1, items, k =>
    if k.atEnd then flawAt .unclosedClass (k.since start)
    else if k.head? = some '-' then
      readMinuses m start fuel (items.push (charItem m '-' false k.char)) (k.step m)
    else .ok (items, k)

/-- The start of a class at its bracket: the bracket, the `^` of a complement, and the members that
could be taken for something else. -/
def openClass (m : Mode) (k : Cursor) : Except PatternError (OpenClass × Cursor) := do
  let start := k.place
  let inside := k.step m
  if inside.atEnd then flawAt .unclosedClass (inside.since start)
  else
    let negated := inside.head? = some '^'
    let inside := if negated then inside.step m else inside
    let (items, inside') ← readMinuses m start (inside.rest.length + 1) (.none inside) inside
    if items.count = 0 ∧ inside'.head? = some ']' then
      let behind := inside'.step m
      if behind.atEnd then flawAt .unclosedClass (behind.since start)
      else
        let items := items.push (charItem m ']' false inside'.char)
        return (⟨start, behind.since start, negated, none, items⟩, behind)
    else return (⟨start, inside'.since start, negated, none, items⟩, inside')

/-- Read on in a class up to its closing bracket.  `outer` are the classes around it, the innermost
first.  `fuel` is at least the number of characters. -/
def readClassFrom (m : Mode) : Nat → OpenClass → List OpenClass → Cursor →
    Except PatternError (Item × Cursor)
  | 0, c, _, _ => flawAt .unclosedClass c.opening
  | fuel + 1, c, outer, k =>
    let k := k.skip m
    match k.head? with
    | none => flawAt .unclosedClass c.opening
    | some '[' =>
      match namedItem? m k with
      | some (item, k) => readClassFrom m fuel (c.push item) outer k
      | none =>
        match openClass m k with
        | .error e => .error e
        | .ok (inner, k) => readClassFrom m fuel inner (c :: outer) k
    | some ']' =>
      let item := c.close m k.next
      match outer with
      | [] => .ok (item, k.next)
      | c :: outer => readClassFrom m fuel (c.push item) outer k.next
    | some _ =>
      match operator? k with
      | some op => readClassFrom m fuel (c.operate m op (k.drop 2)) outer (k.drop 2)
      | none =>
        match readItem m c.opening k with
        | .error e => .error e
        | .ok (item, k) => readClassFrom m fuel (c.push item) outer k

/-- A class at its bracket, and what follows it. -/
def readClass (m : Mode) (k : Cursor) : Except PatternError (Item × Cursor) := do
  let (c, inside) ← openClass m k
  readClassFrom m (k.rest.length + 1) c [] inside

end ChartLint.Pattern
