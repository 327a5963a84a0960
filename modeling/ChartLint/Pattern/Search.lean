import ChartLint.Pattern

/-!
# Looking for patterns

A pattern is looked for by reading the text once.  Every set of characters in the pattern has a
mark, which says that a match may go on with a character of the set.  At each place of the text, the
marks that accept the character before the place move on through the pattern, and a new match may
start.  The pattern occurs if a match reaches its end.

A bounded repetition is written out as copies of what it repeats.  Of `n` copies, halves are shared,
so the marked pattern stays small until marks enter it.  Parts that hold no mark and are not entered
are left as they are.

Nothing is tried twice.  At each place, a loop is entered once from outside and once more if a match
of its body ends there, so a text of `n` characters takes at most `n` times the size of the pattern
times the number of loops around each other.
-/

namespace ChartLint

/-- A pattern in which matches are under way. -/
inductive Marked where
  /-- The empty text. -/
  | empty
  /-- The empty text at a place that meets a condition. -/
  | anchor (condition : Anchor)
  /-- One character of a set; `waiting` if a match may go on with it. -/
  | char (set : CharSet) (waiting : Bool)
  /-- One pattern, then another; `live` if something in it is waiting. -/
  | seq (p q : Marked) (live : Bool)
  /-- Either of two patterns. -/
  | alt (p q : Marked) (live : Bool)
  /-- A pattern one time or more often; also no time if it is `optional`. -/
  | loop (p : Marked) (optional live : Bool)

namespace Marked

/-- Is something waiting? -/
def live : Marked → Bool
  | empty => false
  | anchor _ => false
  | char _ waiting => waiting
  | seq _ _ live => live
  | alt _ _ live => live
  | loop _ _ live => live

/-- One pattern, then another. -/
def andThen (p q : Marked) : Marked := seq p q (p.live || q.live)

/-- Either of two patterns. -/
def orElse (p q : Marked) : Marked := alt p q (p.live || q.live)

/-- A pattern one time or more often; also no time if it is `optional`. -/
def again (p : Marked) (optional : Bool) : Marked := loop p optional p.live

/-- A pattern `n` times. -/
def power (p : Marked) (n : Nat) : Marked :=
  if n = 0 then empty
  else if n = 1 then p
  else
    let half := power p (n / 2)
    if n % 2 = 0 then andThen half half else andThen p (andThen half half)
termination_by n
decreasing_by omega

/-- A pattern with no match under way. -/
def ofPattern : Pattern → Marked
  | .empty => empty
  | .char set => char set false
  | .anchor a => anchor a
  | .group p => ofPattern p
  | .seq p q => andThen (ofPattern p) (ofPattern q)
  | .alt p q => orElse (ofPattern p) (ofPattern q)
  | .iterate p least most =>
    let once := ofPattern p
    match most with
    | none => andThen (power once (least - 1)) (again once (least = 0))
    | some most => andThen (power once least) (power (orElse once empty) (most - least))

/-- Start a match at a place between two characters: does it end there at once, and what is waiting
then? -/
def enter (before after : Option Char) : Marked → Bool × Marked
  | empty => (true, empty)
  | anchor a => (a.holds before after, anchor a)
  | char set _ => (false, char set true)
  | seq p q _ =>
    let (ended, p) := p.enter before after
    if ended then
      let (ended, q) := q.enter before after
      (ended, andThen p q)
    else (false, andThen p q)
  | alt p q _ =>
    let (ended, p) := p.enter before after
    let (ended', q) := q.enter before after
    (ended || ended', orElse p q)
  | loop p optional _ =>
    let (ended, p) := p.enter before after
    (optional || ended, again p optional)

/-- Go on to the place behind the character `before`, and start a match there if `entered` says so:
does a match end there, and what is waiting then? -/
def feed (before after : Option Char) : Bool → Marked → Bool × Marked
  | entered, empty => (entered, empty)
  | entered, anchor a => (entered && a.holds before after, anchor a)
  | entered, char set waiting => (waiting && before.any set.contains, char set entered)
  | entered, seq p q live =>
    if entered || live then
      let (ended, p) := p.feed before after entered
      let (ended, q) := q.feed before after ended
      (ended, andThen p q)
    else (false, seq p q live)
  | entered, alt p q live =>
    if entered || live then
      let (ended, p) := p.feed before after entered
      let (ended', q) := q.feed before after entered
      (ended || ended', orElse p q)
    else (false, alt p q live)
  | entered, loop p optional live =>
    if entered || live then
      let (ended, p) := p.feed before after entered
      ((optional && entered) || ended,
        again (if ended && !entered then (p.enter before after).2 else p) optional)
    else (false, loop p optional live)

/-- Does a match end at the place behind `before` or later? -/
def occurs (m : Marked) (before : Option Char) : List Char → Bool
  | [] => (m.feed before none true).1
  | c :: cs =>
    let (ended, m) := m.feed before (some c) true
    ended || m.occurs (some c) cs

end Marked

/-- Does the pattern occur in the text? -/
def Pattern.occursIn (p : Pattern) (text : String) : Bool :=
  (Marked.ofPattern p).occurs none text.toList

end ChartLint
