import ChartLint.Pattern.Class
import ChartLint.Pattern.Group

/-!
# Reading patterns

The written form of a pattern: literal characters, the point, the anchors `^` and `$`, escapes,
classes in square brackets, groups, alternatives, and repetition with `*`, `+`, `?` and bounds in
braces.

The reader goes over the characters once.  It keeps the groups that are open, the innermost first.
At each level it holds the alternatives that are finished and the parts of the one being read, the
last part first.

Errors in the form of the pattern come before all others.  Then the depth of nesting is checked, then
what is well formed and means nothing, and at last the room that the pattern takes.
-/

namespace ChartLint

namespace Pattern

/-- A part of a pattern. -/
structure Part where
  /-- What it matches. -/
  pattern : Pattern
  /-- Where it stands. -/
  span : Span
  /-- How it is nested. -/
  layers : Layers
  /-- Does it only change the mode? -/
  switch : Bool := false

/-- The parts of an alternative as one, from the last to the first. -/
def sequencePart (span : Span) : List Part → Part
  | [] => ⟨.empty, span, [], false⟩
  | [p] => p
  | ps =>
    let ps := ps.reverse
    ⟨.concat (ps.map (·.pattern)), span, span :: Layers.all (ps.map (·.layers)), false⟩

/-- What is being read between two parentheses. -/
structure Level where
  /-- The place where it starts. -/
  start : Nat
  /-- The alternatives that are finished, the last one first. -/
  finished : List Part := []
  /-- The place where the alternative being read starts. -/
  branch : Nat := start
  /-- Its parts, the last one first. -/
  parts : List Part := []

namespace Level

/-- One more part. -/
def push (l : Level) (p : Part) : Level := { l with parts := p :: l.parts }

/-- The alternative that ends at a place. -/
def alternative (l : Level) (place : Nat) : Part := sequencePart ⟨l.branch, place⟩ l.parts

/-- A new alternative from a place on. -/
def bar (l : Level) (place : Nat) : Level :=
  { l with finished := l.alternative place :: l.finished, branch := place + 1, parts := [] }

/-- All alternatives, the last of which ends at a place. -/
def part (l : Level) (place : Nat) : Part :=
  let last := l.alternative place
  if l.finished.isEmpty then last
  else
    let span : Span := ⟨l.start, place⟩
    { pattern := l.finished.foldl (fun q p => .alt p.pattern q) last.pattern
      span
      layers := span :: Layers.all ((last :: l.finished).reverse.map (·.layers)) }

end Level

/-- A group that is open. -/
structure Frame where
  /-- Its parenthesis. -/
  opening : Span
  /-- Does it keep what it matches? -/
  keeps : Bool
  /-- The mode outside the group. -/
  mode : Mode
  /-- What is being read outside the group. -/
  level : Level

/-- What the reader knows. -/
structure Reading where
  /-- What is being read. -/
  level : Level
  /-- The groups that are open, the innermost first. -/
  frames : List Frame := []
  /-- The mode of what follows. -/
  mode : Mode := {}
  /-- The names of groups. -/
  names : List (String × Span) := []
  /-- The first part that is well formed and means nothing. -/
  flaw : Option PatternError := none

namespace Reading

/-- One more part, and what is wrong with it. -/
def push (r : Reading) (p : Part) (flaw : Option PatternError) : Reading :=
  { r with level := r.level.push p, flaw := r.flaw <|> flaw }

/-- One more part that nothing is nested in. -/
def pushLeaf (r : Reading) (p : Pattern) (span : Span) (flaw : Option Flaw) : Reading :=
  r.push ⟨p, span, [], false⟩ (flaw.map (.flawed · span none))

/-- A group opens. -/
def openGroup (r : Reading) (opening : Span) (keeps : Bool) (inner : Mode) (place : Nat) : Reading :=
  { r with level := { start := place }, mode := inner
           frames := ⟨opening, keeps, r.mode, r.level⟩ :: r.frames }

/-- What stands behind an opening parenthesis. -/
def parenthesis (r : Reading) (k : Cursor) : Except PatternError (Reading × Cursor) := do
  let (opening, inside) ← readOpening r.mode k
  match opening with
  | .change mode =>
    return ({ r with mode, level := r.level.push ⟨.empty, inside.since k.place, [], true⟩ }, inside)
  | .plain inner => return (r.openGroup k.char false inner inside.place, inside)
  | .keeping none => return (r.openGroup k.char true r.mode inside.place, inside)
  | .keeping (some (name, span)) =>
    match r.names.lookup name with
    | some earlier => .error (.flawed .repeatedName span (some earlier))
    | none =>
      let r := { r with names := (name, span) :: r.names }
      return (r.openGroup k.char true r.mode inside.place, inside)

/-- A group closes. -/
def closeGroup (r : Reading) (k : Cursor) : Except PatternError (Reading × Cursor) :=
  match r.frames with
  | [] => flawAt .unopenedGroup k.char
  | frame :: frames =>
    let inner := r.level.part k.place
    let span := k.next.since frame.opening.start
    let part : Part :=
      ⟨if frame.keeps then .group inner.pattern else inner.pattern, span, span :: inner.layers, false⟩
    .ok ({ r with level := frame.level.push part, frames, mode := frame.mode }, k.next)

/-- The last part is repeated. -/
def iterated (r : Reading) (k : Cursor)
    (bounds : Except PatternError ((Nat × Option Nat) × Cursor)) :
    Except PatternError (Reading × Cursor) :=
  match r.level.parts with
  | [] => flawAt .nothingToRepeat k.here
  | p :: ps =>
    if p.switch then flawAt .nothingToRepeat k.here
    else do
      let ((least, most), behind) ← bounds
      let span := behind.since p.span.start
      let part : Part := ⟨p.pattern.times least most, span, span :: p.layers, false⟩
      return ({ r with level := { r.level with parts := part :: ps } }, behind)

/-- The characters that the point stands for. -/
def dot (m : Mode) : CharSet :=
  if m.dotAll then CharSet.none.negate
  else if m.returns then ((CharSet.single '\n').union (.single '\r')).negate
  else (CharSet.single '\n').negate

/-- An escape. -/
def escape (r : Reading) (k : Cursor) : Except PatternError (Reading × Cursor) := do
  let (e, behind) ← Escape.read r.mode k
  let span := behind.since k.place
  match e with
  | .char c byte =>
    let flaw := if r.mode.ascii && byte && 0x80 ≤ c.toNat then some .partOfCharacter else none
    return (r.pushLeaf (.char (r.mode.close (.single c))) span flaw, behind)
  | .set s flaw => return (r.pushLeaf (.char s) span flaw, behind)
  | .anchor a => return (r.pushLeaf (.anchor a) span none, behind)

/-- One construct of the pattern: what is known behind it, and what follows it. -/
def step (r : Reading) (c : Char) (k : Cursor) : Except PatternError (Reading × Cursor) :=
  let m := r.mode
  match c with
  | '(' => r.parenthesis k
  | ')' => r.closeGroup k
  | '|' => .ok ({ r with level := r.level.bar k.place }, k.next)
  | '?' => r.iterated k (.ok ((0, some 1), dropLazy k.next))
  | '*' => r.iterated k (.ok ((0, none), dropLazy k.next))
  | '+' => r.iterated k (.ok ((1, none), dropLazy k.next))
  | '\x7b' => r.iterated k (readBounds m k)
  | '[' => (readClass m k).map fun (item, behind) =>
    (r.push ⟨.char item.set, item.span, item.layers, false⟩ item.flaw, behind)
  | '\\' => r.escape k
  | '.' =>
    .ok (r.pushLeaf (.char (dot m)) k.char (if m.ascii then some .partOfCharacter else none), k.next)
  | '^' =>
    let a : Anchor := if m.multiLine then .lineStart m.returns else .textStart
    .ok (r.pushLeaf (.anchor a) k.char none, k.next)
  | '$' =>
    let a : Anchor := if m.multiLine then .lineEnd m.returns else .textEnd
    .ok (r.pushLeaf (.anchor a) k.char none, k.next)
  | _ => .ok (r.pushLeaf (.char (m.close (.single c))) k.char none, k.next)

/-- The pattern that has been read, at the end of its text. -/
def finish (r : Reading) (place : Nat) : Except PatternError Pattern :=
  match r.frames with
  | frame :: _ => flawAt .unclosedGroup frame.opening
  | [] =>
    let whole := r.level.part place
    match (whole.layers.drop nestingLimit).head?, r.flaw with
    | some span, _ => flawAt .tooDeep span
    | none, some flaw => .error flaw
    | none, none => if whole.pattern.fits then .ok whole.pattern else .error .tooLarge

end Reading

/-- Read the rest of a pattern.  Every construct takes a character, so `fuel` is enough if it is the
number of characters. -/
def readFrom : Nat → Reading → Cursor → Except PatternError Pattern
  | 0, r, k => r.finish k.place
  | fuel + 1, r, k =>
    let k := k.skip r.mode
    match k.head? with
    | none => r.finish k.place
    | some c =>
      match r.step c k with
      | .error e => .error e
      | .ok (r, k) => readFrom fuel r k

/-- Read a pattern. -/
def read (text : String) : Except PatternError Pattern :=
  readFrom (text.length + 1) { level := { start := 0 } } ⟨0, text.toList⟩

end Pattern

/-- The patterns that the texts spell, or the first text that is no pattern. -/
def readPatterns : List String → Except (String × PatternError) (List Pattern)
  | [] => .ok []
  | t :: ts =>
    match Pattern.read t with
    | .error e => .error (t, e)
    | .ok p => (readPatterns ts).map (p :: ·)

end ChartLint
