import ChartLint.Pattern

/-!
# The room that patterns take

A pattern is refused if an automaton for it would take more than ten mebibytes.  The automaton reads
the bytes of a text in UTF-8.  It has one state for every byte of a plain text, a state of its own
for every branch, and for a set of characters the states that tell the encodings of its members from
others.  Each state takes 32 bytes, each branch of a state four bytes more, and each range of bytes
that a state tells apart eight bytes.

There is an automaton for either direction.  Forward, states of a set that go on in the same way are
one state.  Backward, a set has a branch for every sequence of byte ranges, and sequences share the
states of their common start.  Only the forward automaton keeps what groups match, in two states for
each group.

Bounded repetitions are written out, so their room is counted and not built.
-/

namespace ChartLint

open Text (CodeRange)

/-! ## Encodings of ranges -/

/-- The byte ranges that encode the codes from `first` to `last`, which have `k` bytes behind their
first byte.  `lead` is added to the first byte. -/
def byteRanges : Nat → (lead first last : Nat) → List (List CodeRange)
  | 0, lead, first, last => [[⟨lead + first, lead + last⟩]]
  | k + 1, lead, first, last =>
    let block := Nat.pow 64 (k + 1)
    let any := List.replicate (k + 1) (⟨0x80, 0xBF⟩ : CodeRange)
    let under (n : Nat) (tails : List (List CodeRange)) := tails.map (⟨lead + n, lead + n⟩ :: ·)
    let (i, j) := (first / block, last / block)
    if i = j then under i (byteRanges k 0x80 (first % block) (last % block))
    else
      let fromStart := first % block = 0
      let toEnd := last % block = block - 1
      let i' := if fromStart then i else i + 1
      let j' := if toEnd then j + 1 else j
      (if fromStart then [] else under i (byteRanges k 0x80 (first % block) (block - 1)))
        ++ (if i' < j' then [⟨lead + i', lead + j' - 1⟩ :: any] else [])
        ++ (if toEnd then [] else under j (byteRanges k 0x80 0 (last % block)))

/-- The codes whose encodings have the same length, without the codes that are no characters. -/
def encodingLengths : List (Nat × Nat × CodeRange) :=
  [(0, 0, ⟨0, 0x7F⟩), (1, 0xC0, ⟨0x80, 0x7FF⟩), (2, 0xE0, ⟨0x800, 0xD7FF⟩),
   (2, 0xE0, ⟨0xE000, 0xFFFF⟩), (3, 0xF0, ⟨0x10000, 0x10FFFF⟩)]

/-- The byte ranges that encode a range of codes. -/
def encodings (r : CodeRange) : List (List CodeRange) :=
  encodingLengths.flatMap fun (k, lead, codes) =>
    let first := max r.first codes.first
    let last := min r.last codes.last
    if first ≤ last then byteRanges k lead first last else []

/-- The bytes that encode a character. -/
def encoding (c : Char) : List Nat :=
  (encodings ⟨c.toNat, c.toNat⟩).flatten.map (·.first)

/-! ## Sets -/

/-- Sequences that start with the same range, taken together. -/
def groupHeads : List (List CodeRange) → List (CodeRange × List (List CodeRange))
  | [] => []
  | [] :: rest => groupHeads rest
  | (r :: tail) :: rest =>
    match groupHeads rest with
    | [] => [(r, [tail])]
    | (q, tails) :: more =>
      if q = r then (q, tail :: tails) :: more else (r, [tail]) :: (q, tails) :: more

/-- The states that a list of sequences needs, each as the sequences that lead on from it.  States
in `seen` are there already.  `depth` is the length of the longest sequence. -/
def stateSequences : Nat → List (List CodeRange) → List (List (List CodeRange)) →
    List (List (List CodeRange))
  | 0, _, seen => seen
  | depth + 1, sequences, seen =>
    if sequences.all List.isEmpty || seen.contains sequences then seen
    else sequences :: (groupHeads sequences).foldl
      (fun seen (_, tails) => stateSequences depth tails seen) seen

/-- How many ranges two sequences have in common at their start. -/
def commonStart : List CodeRange → List CodeRange → Nat
  | a :: as, b :: bs => if a = b then commonStart as bs + 1 else 0
  | _, _ => 0

/-- How many starts sequences in order have that are not starts of the sequence before. -/
def startCount (before : List CodeRange) : List (List CodeRange) → Nat
  | [] => 0
  | sequence :: rest => sequence.length - commonStart before sequence + startCount sequence rest

/-- The bytes of one state. -/
def stateBytes : Nat := 32

/-- The direction in which an automaton reads. -/
inductive Direction where
  /-- From the start of a text to its end. -/
  | forward
  /-- From the end of a text to its start. -/
  | backward
deriving DecidableEq, Repr

/-- The bytes of the states for a set. -/
def CharSet.bytes (d : Direction) (s : CharSet) : Nat :=
  if s.ranges.all (·.last < 0x80) then 2 * stateBytes + 8 * s.ranges.length
  else
    let sequences := s.ranges.flatMap encodings
    match d with
    | .forward =>
      stateBytes + (stateSequences 4 sequences []).foldl
        (fun n state => n + stateBytes + 8 * (groupHeads state).length) 0
    | .backward =>
      2 * stateBytes + 4 * sequences.length + stateBytes * startCount [] sequences

/-! ## Patterns -/

/-- An alternative of a pattern. -/
inductive Arm where
  /-- The empty text. -/
  | empty
  /-- A plain text. -/
  | text (chars : List Char)
  /-- A set of characters. -/
  | set (set : CharSet)
  /-- Anything else, with the bytes that it takes. -/
  | other (bytes : Nat)

namespace Arm

/-- The arm of a set.  A set of one character is a plain text. -/
def ofSet (s : CharSet) : Arm :=
  match s.ranges with
  | [r] => if r.first = r.last then .text [Char.ofNat r.first] else .set s
  | _ => .set s

/-- The bytes of an arm. -/
def bytes (d : Direction) : Arm → Nat
  | .empty => stateBytes
  | .text chars => stateBytes * (chars.flatMap encoding).length
  | .set s => s.bytes d
  | .other bytes => bytes

/-- The text of an arm. -/
def text? : Arm → Option (List Char)
  | .text chars => some chars
  | _ => none

/-- The set of an arm that is one character of a plain text. -/
def single? : Arm → Option CharSet
  | .text [c] => some (.single c)
  | _ => none

/-- The set of an arm. -/
def set? : Arm → Option CharSet
  | .set s => some s
  | _ => none

/-- One arm, then another. -/
def append (d : Direction) : Arm → Arm → Arm
  | .empty, b => b
  | a, .empty => a
  | .text s, .text t => .text (s ++ t)
  | a, b => .other (a.bytes d + b.bytes d)

end Arm

/-- The bytes of the states that read one of several words.  Words share the states of their common
start.  `depth` is more than the length of the longest word. -/
def wordsBytes : Nat → List (List Nat) → Nat
  | 0, _ => 0
  | depth + 1, words =>
    let heads := (words.filterMap List.head?).eraseDups
    if heads.isEmpty then 0
    else
      let here := if heads.length = 1 then stateBytes else stateBytes + 8 * heads.length
      let ends := if words.any List.isEmpty then 4 else 0
      heads.foldl (fun n head => n + wordsBytes depth
        (words.filterMap fun word => if word.head? = some head then some word.tail else none))
        (here + stateBytes + 4 + ends)

/-- What is known about the automaton of a pattern. -/
structure Footprint where
  /-- The alternatives of the pattern. -/
  arms : List Arm
  /-- The length of the shortest match; none if that is not known. -/
  shortest : Option Nat

namespace Footprint

/-- All alternatives as one arm. -/
def arm (d : Direction) (f : Footprint) : Arm :=
  match f.arms with
  | [a] => a
  | arms =>
    match arms.mapM Arm.single?, arms.mapM Arm.set?, arms.mapM Arm.text? with
    | some singles, _, _ => .ofSet (singles.foldl .union .none)
    | _, some sets, _ => .set (sets.foldl .union .none)
    | _, _, some texts =>
      let words := texts.map fun t => match d with
        | .forward => t.flatMap encoding
        | .backward => (t.flatMap encoding).reverse
      .other (stateBytes + wordsBytes ((words.map List.length).foldl max 0 + 1) words)
    | _, _, _ =>
      .other (arms.foldl (fun n a => n + 4 + a.bytes d) (2 * stateBytes))

/-- The bytes of an automaton with what is known. -/
def bytes (d : Direction) (f : Footprint) : Nat :=
  (f.arm d).bytes d

/-- A branch into two states. -/
def branchBytes : Nat := stateBytes + 8

/-- The bytes of a repetition of something that takes `n` bytes. -/
def repeatBytes (n : Nat) (consumes : Bool) : Nat → Option Nat → Nat
  | 0, none => if consumes then n + branchBytes else n + 2 * branchBytes + stateBytes
  | least, none => least * n + branchBytes
  | 0, some 1 => n + branchBytes + stateBytes
  | least, some most =>
    if least = most then least * n
    else max (least * n) (if least = 0 then stateBytes else 0) + stateBytes
      + (most - least) * (n + branchBytes)

end Footprint

/-- What is known about the automaton of a pattern. -/
def Pattern.footprint (d : Direction) : Pattern → Footprint
  | empty => ⟨[.empty], some 0⟩
  | char set => ⟨[.ofSet set], if set.ranges.isEmpty then none else some 1⟩
  | anchor _ => ⟨[.other stateBytes], some 0⟩
  | group p =>
    let f := p.footprint d
    ⟨[.other (f.bytes d + if d = .forward then 2 * stateBytes else 0)], f.shortest⟩
  | seq p q =>
    let (f, g) := (p.footprint d, q.footprint d)
    ⟨[(f.arm d).append d (g.arm d)], f.shortest.bind fun n => g.shortest.map (n + ·)⟩
  | alt p q =>
    let (f, g) := (p.footprint d, q.footprint d)
    ⟨f.arms ++ g.arms, f.shortest.bind fun n => g.shortest.map (min n)⟩
  | iterate p least most =>
    let f := p.footprint d
    ⟨[.other (Footprint.repeatBytes (f.bytes d) (f.shortest.any (0 < ·)) least most)],
      f.shortest.map (least * ·)⟩

/-- The bytes that an automaton may take. -/
def footprintLimit : Nat := 10485760

/-- The bytes around every pattern: the start of a match anywhere, and its end. -/
def frameBytes : Nat := 208

/-- Do the automata for the pattern take no more room than they may? -/
def Pattern.fits (p : Pattern) : Bool :=
  [Direction.forward, .backward].all fun d => (p.footprint d).bytes d + frameBytes ≤ footprintLimit

end ChartLint
