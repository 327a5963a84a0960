import ChartLint.Pattern.CharSet

/-!
# Patterns

A pattern is a regular expression over names.  It is looked for anywhere in a name, so only the
question whether it occurs matters and not where, and greedy and lazy repetition mean the same.

An anchor is a condition on a place between two characters.  It sees the character before the place
and the one after it, and it sees nothing at an end of the text.
-/

namespace ChartLint

/-- What is asked of the two sides of a place with respect to words. -/
inductive WordEdge where
  /-- A word character on one side and none on the other. -/
  | boundary
  /-- Word characters on both sides, or on none. -/
  | interior
  /-- No word character before the place, one after it. -/
  | start
  /-- A word character before the place, none after it. -/
  | finish
  /-- No word character before the place. -/
  | halfStart
  /-- No word character after the place. -/
  | halfFinish
deriving DecidableEq, Repr

/-- Does a place have an edge, if word characters stand before it and after it or do not? -/
def WordEdge.holds (before after : Bool) : WordEdge → Bool
  | boundary => before != after
  | interior => before == after
  | start => !before && after
  | finish => before && !after
  | halfStart => !before
  | halfFinish => !after

/-- A condition on a place in a text. -/
inductive Anchor where
  /-- The start of the text. -/
  | textStart
  /-- The end of the text. -/
  | textEnd
  /-- The start of a line.  Carriage returns may end lines, too. -/
  | lineStart (returns : Bool)
  /-- The end of a line.  Carriage returns may end lines, too. -/
  | lineEnd (returns : Bool)
  /-- An edge of a word, where the characters of words are given. -/
  | word (edge : WordEdge) (chars : CharSet)
deriving DecidableEq, Repr

/-- Does a place between two characters meet the condition?  A carriage return and a line feed
behind it end one line together. -/
def Anchor.holds (before after : Option Char) : Anchor → Bool
  | textStart => before.isNone
  | textEnd => after.isNone
  | lineStart returns =>
    before.isNone || before == some '\n' || (returns && before == some '\r' && after != some '\n')
  | lineEnd returns =>
    after.isNone || (after == some '\n' && !(returns && before == some '\r')) ||
      (returns && after == some '\r')
  | word edge chars => edge.holds (before.any chars.contains) (after.any chars.contains)

/-- A regular expression. -/
inductive Pattern where
  /-- The empty text. -/
  | empty
  /-- One character of a set. -/
  | char (set : CharSet)
  /-- The empty text at a place that meets a condition. -/
  | anchor (condition : Anchor)
  /-- A pattern in parentheses that keep what it matches. -/
  | group (p : Pattern)
  /-- One pattern, then another. -/
  | seq (p q : Pattern)
  /-- Either of two patterns. -/
  | alt (p q : Pattern)
  /-- A pattern at least `least` times, and at most `most` times if there is a bound. -/
  | iterate (p : Pattern) (least : Nat) (most : Option Nat)
deriving DecidableEq, Repr

namespace Pattern

/-- One pattern, then another, where the empty text adds nothing. -/
def append : Pattern → Pattern → Pattern
  | empty, q => q
  | p, empty => p
  | p, q => seq p q

/-- Neighbours put together. -/
def pairUp : List Pattern → List Pattern
  | p :: q :: rest => p.append q :: pairUp rest
  | ps => ps

/-- Patterns one after the other.  Halving the list `rounds` times keeps the result shallow. -/
def concatIn : Nat → List Pattern → Pattern
  | _, [] => empty
  | _, [p] => p
  | 0, p :: ps => ps.foldl append p
  | rounds + 1, ps => concatIn rounds (pairUp ps)

/-- Patterns one after the other. -/
def concat (ps : List Pattern) : Pattern :=
  concatIn ps.length ps

/-- Can the pattern match nothing but the empty text? -/
def isVoid : Pattern → Bool
  | empty => true
  | char _ => false
  | anchor _ => true
  | group p => p.isVoid
  | seq p q => p.isVoid && q.isVoid
  | alt p q => p.isVoid && q.isVoid
  | iterate p _ _ => p.isVoid

/-- A pattern at least `least` times, and at most `most` times if there is a bound.  Of the empty
text, one time is as good as many. -/
def times (p : Pattern) (least : Nat) (most : Option Nat) : Pattern :=
  let least := if p.isVoid then min least 1 else least
  let most := if p.isVoid then some ((most.map (min 1)).getD 1) else most
  if most = some 0 then empty
  else if least = 1 ∧ most = some 1 then p
  else iterate p least most

end Pattern

end ChartLint
