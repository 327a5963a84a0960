import ChartLint.Pattern

/-!
# Preferred matches

A pattern may match a text in several ways.  One of them is preferred: it starts as far to the left
as a match can, takes the first alternative that leads to a match, and repeats as often as it can.
What the parentheses of a pattern keep is what they have in the preferred match.

The ways in which a match can go on are listed in the order of preference, so the preferred one is
the first of the list.  A pattern that follows another one is tried on every way of the first, in
order; this is how a match goes back on a choice that leads nowhere.  Every repetition counts as
greedy, since a `Pattern` does not tell greedy from lazy ones.

*Runs.*  A run of characters is preferred as long as it can be.  Where it stops earlier, one of its
characters is ahead (`Pattern.exists_goOn_run`), so a pattern that cannot start with such a
character follows the whole run (`Pattern.exists_flatMap_goOn_run`).  Where it can, as a list of
names can start with a blank, the match may have to give characters back
(`Pattern.goOn_blanks_keptRun`).
-/

namespace ChartLint

/-- A match under way. -/
structure Match where
  /-- The character in front of the place that the match has come to. -/
  before : Option Char
  /-- The text from there on. -/
  ahead : List Char
  /-- What the parentheses have kept so far, in the order in which they were closed. -/
  kept : List (List Char)

namespace Match

/-- The match has moved over one character. -/
def past (m : Match) (c : Char) (cs : List Char) : Match := ⟨some c, cs, m.kept⟩

/-- What the match took on its way from `m` to `n`. -/
def taken (m n : Match) : List Char := m.ahead.take (m.ahead.length - n.ahead.length)

end Match

namespace Pattern

/-- A step taken over and over, `least` times or more often, and no more than `most` times if there
is a bound.  More often is preferred.  A step that takes nothing is not followed by another one. -/
def repeated (step : Match → List Match) (least : Nat) (most : Option Nat) (m : Match) :
    List Match :=
  match least with
  | least + 1 => (step m).flatMap fun n => repeated step least (most.map (· - 1)) n
  | 0 =>
    if most = some 0 then [m]
    else ((step m).flatMap fun n =>
      if n.ahead.length < m.ahead.length then repeated step 0 (most.map (· - 1)) n else [n]) ++ [m]
termination_by (least, m.ahead.length)

/-- The ways in which a match goes on through a pattern, the preferred one first. -/
def goOn : Pattern → Match → List Match
  | empty, m => [m]
  | char set, m =>
    match m.ahead with
    | [] => []
    | c :: cs => if set.contains c then [m.past c cs] else []
  | anchor a, m => if a.holds m.before m.ahead.head? then [m] else []
  | group p, m => (goOn p m).map fun n => { n with kept := n.kept ++ [m.taken n] }
  | seq p q, m => (goOn p m).flatMap (goOn q)
  | alt p q, m => goOn p m ++ goOn q m
  | iterate p least most, m => repeated (goOn p) least most m

/-- The preferred match that starts at a place or, if there is none, further to the right. -/
def search (p : Pattern) (before : Option Char) : List Char → Option Match
  | [] => (p.goOn ⟨before, [], []⟩).head?
  | c :: cs => (p.goOn ⟨before, c :: cs, []⟩).head?.or (search p (some c) cs)

/-- What the parentheses of a pattern keep in the preferred match in a text. -/
def captures? (p : Pattern) (text : String) : Option (List (List Char)) :=
  (p.search none text.toList).map (·.kept)

/-! ## Patterns one after the other -/

theorem goOn_seq (p q : Pattern) (m : Match) :
    goOn (.seq p q) m = (goOn p m).flatMap (goOn q) := by
  rw [goOn]

theorem goOn_seq_eq (p q : Pattern) : goOn (.seq p q) = fun m => (goOn p m).flatMap (goOn q) :=
  funext (goOn_seq p q)

theorem goOn_char (set : CharSet) (m : Match) :
    goOn (.char set) m =
      match m.ahead with
      | [] => []
      | c :: cs => if set.contains c then [m.past c cs] else [] := by
  rw [goOn]

theorem goOn_anchor_textStart (p : Pattern) (m : Match) :
    goOn (.seq (.anchor .textStart) p) m = if m.before.isNone then goOn p m else [] := by
  have hanchor : goOn (.anchor .textStart) m = if m.before.isNone then [m] else [] := by
    rw [goOn, Anchor.holds]
  rw [goOn_seq, hanchor]
  split <;> simp

/-- The pattern of one character. -/
def lit (c : Char) : Pattern := .char (.single c)

theorem contains_single_iff {c d : Char} : (CharSet.single c).contains d = true ↔ d = c := by
  simp only [CharSet.single, CharSet.range, CharSet.contains, List.any_cons, List.any_nil,
    Bool.or_false, Text.CodeRange.contains, Bool.and_eq_true, decide_eq_true_eq]
  rw [← Char.toNat_inj]
  omega

/-- A pattern that starts with some text. -/
def literally (word : List Char) (p : Pattern) : Pattern :=
  word.foldr (fun c p => .seq (lit c) p) p

theorem goOn_literally_append (word : List Char) (p : Pattern) (before : Option Char)
    (rest : List Char) (kept : List (List Char)) :
    ∃ last, goOn (literally word p) ⟨before, word ++ rest, kept⟩ = goOn p ⟨last, rest, kept⟩ := by
  induction word generalizing before with
  | nil => exact ⟨before, rfl⟩
  | cons c word ih =>
      obtain ⟨last, hlast⟩ := ih (some c)
      refine ⟨last, ?_⟩
      rw [← hlast]
      simp [literally, goOn, lit, contains_single_iff, Match.past]

theorem goOn_literally_of_not_prefix {word : List Char} {m : Match} (h : ¬ word <+: m.ahead)
    (p : Pattern) : goOn (literally word p) m = [] := by
  induction word generalizing m with
  | nil => exact absurd List.nil_prefix h
  | cons c word ih =>
      change goOn (.seq (lit c) (literally word p)) m = []
      rw [goOn_seq, lit, goOn_char]
      split
      case h_1 => rfl
      case h_2 d ds hahead =>
        split
        case isTrue hd =>
          rw [contains_single_iff] at hd
          rw [hahead, hd, List.prefix_cons_inj] at h
          simpa using ih (m := m.past d ds) h
        case isFalse => rfl

/-! ## Runs of characters -/

/-- Any number of characters of a set. -/
def run (set : CharSet) : Pattern := .iterate (.char set) 0 none

/-- One more character, and then any number, is preferred to none. -/
theorem goOn_run (set : CharSet) (m : Match) :
    goOn (run set) m =
      match m.ahead with
      | [] => [m]
      | c :: cs => if set.contains c then goOn (run set) (m.past c cs) ++ [m] else [m] := by
  rw [run, goOn, repeated, if_neg (by simp), goOn_char]
  cases hahead : m.ahead with
  | nil => rfl
  | cons c cs =>
      dsimp only
      split
      case isTrue => simp [goOn, Match.past]
      case isFalse => rfl

theorem goOn_run_cons {set : CharSet} {c : Char} (hc : set.contains c = true) (before : Option Char)
    (cs : List Char) (kept : List (List Char)) :
    goOn (run set) ⟨before, c :: cs, kept⟩ =
      goOn (run set) ⟨some c, cs, kept⟩ ++ [⟨before, c :: cs, kept⟩] := by
  rw [goOn_run]
  simp [hc, Match.past]

theorem goOn_run_of_not {set : CharSet} {c : Char} (hc : set.contains c = false)
    (before : Option Char) (cs : List Char) (kept : List (List Char)) :
    goOn (run set) ⟨before, c :: cs, kept⟩ = [⟨before, c :: cs, kept⟩] := by
  rw [goOn_run]
  simp [hc]

/-- A run takes all characters of the set that there are.  If it takes fewer, one of them is
ahead. -/
theorem exists_goOn_run (set : CharSet) (m : Match) :
    ∃ last less, goOn (run set) m = ⟨last, m.ahead.dropWhile set.contains, m.kept⟩ :: less ∧
      ∀ n ∈ less, ∃ c cs, n.ahead = c :: cs ∧ set.contains c = true := by
  obtain ⟨before, ahead, kept⟩ := m
  induction ahead generalizing before with
  | nil => exact ⟨before, [], by rw [goOn_run]; simp⟩
  | cons c cs ih =>
      cases hc : set.contains c with
      | true =>
          obtain ⟨last, less, hrun, hless⟩ := ih (some c)
          refine ⟨last, less ++ [⟨before, c :: cs, kept⟩], ?_, ?_⟩
          · rw [goOn_run_cons hc, hrun]
            simp [hc]
          · intro n hn
            rcases List.mem_append.1 hn with hn | hn
            · exact hless n hn
            · rw [List.mem_singleton.1 hn]
              exact ⟨c, cs, rfl, hc⟩
      | false => exact ⟨before, [], by rw [goOn_run_of_not hc]; simp [hc]⟩

/-- What cannot start with a character of the set comes behind all of them. -/
theorem exists_flatMap_goOn_run {set : CharSet} {f : Match → List Match}
    (h : ∀ n c cs, n.ahead = c :: cs → set.contains c = true → f n = []) (m : Match) :
    ∃ last, (goOn (run set) m).flatMap f = f ⟨last, m.ahead.dropWhile set.contains, m.kept⟩ := by
  obtain ⟨last, less, hrun, hless⟩ := exists_goOn_run set m
  refine ⟨last, ?_⟩
  have hnone : less.flatMap f = [] := by
    rw [List.flatMap_eq_nil_iff]
    intro n hn
    obtain ⟨c, cs, hahead, hc⟩ := hless n hn
    exact h n c cs hahead hc
  rw [hrun, List.flatMap_cons, hnone, List.append_nil]

/-! ## What is kept of a run -/

/-- Parentheses around one or more characters of a set. -/
def keptRun (set : CharSet) : Pattern := .group (.iterate (.char set) 1 none)

theorem goOn_keptRun (set : CharSet) (m : Match) :
    goOn (keptRun set) m =
      match m.ahead with
      | [] => []
      | c :: cs =>
        if set.contains c then
          (goOn (run set) (m.past c cs)).map fun n => { n with kept := n.kept ++ [m.taken n] }
        else [] := by
  rw [keptRun, goOn, goOn, repeated, goOn_char]
  cases m.ahead with
  | nil => rfl
  | cons c cs =>
      dsimp only
      split
      case isTrue => rw [List.flatMap_singleton, run, goOn, Option.map_none]
      case isFalse => rfl

theorem take_length_takeWhile (p : Char → Bool) (cs : List Char) :
    cs.take (cs.length - (cs.dropWhile p).length) = cs.takeWhile p := by
  have hlength : cs.length = (cs.takeWhile p).length + (cs.dropWhile p).length := by
    rw [← List.length_append, List.takeWhile_append_dropWhile]
  rw [hlength, Nat.add_sub_cancel]
  exact (List.prefix_iff_eq_take.1 (List.takeWhile_prefix p)).symm

/-- Parentheses keep all characters of the set that there are. -/
theorem exists_head?_goOn_keptRun {set : CharSet} {c : Char} (hc : set.contains c = true)
    (before : Option Char) (cs : List Char) (kept : List (List Char)) :
    ∃ last, (goOn (keptRun set) ⟨before, c :: cs, kept⟩).head? =
      some ⟨last, (c :: cs).dropWhile set.contains,
        kept ++ [(c :: cs).takeWhile set.contains]⟩ := by
  obtain ⟨last, less, hrun, -⟩ := exists_goOn_run set ⟨some c, cs, kept⟩
  refine ⟨last, ?_⟩
  have hdrop : (c :: cs).dropWhile set.contains = cs.dropWhile set.contains :=
    List.dropWhile_cons_of_pos hc
  rw [goOn_keptRun]
  dsimp only
  rw [if_pos hc, Match.past, hrun, List.map_cons, List.head?_cons, Match.taken, ← hdrop,
    take_length_takeWhile]

theorem goOn_keptRun_of_not {set : CharSet} {c : Char} (hc : set.contains c = false)
    (before : Option Char) (cs : List Char) (kept : List (List Char)) :
    goOn (keptRun set) ⟨before, c :: cs, kept⟩ = [] := by
  rw [goOn_keptRun]
  simp [hc]

/-- Behind blanks, what is kept is all characters of the set that there are but for some blanks in
front.  If there are blanks alone, the last of them is kept. -/
theorem goOn_blanks_keptRun {blank set : CharSet}
    (hblank : ∀ c, blank.contains c = true → set.contains c = true) (m : Match) :
    (m.ahead.takeWhile set.contains = [] ∧ goOn (.seq (run blank) (keptRun set)) m = []) ∨
      ∃ skipped list last, m.ahead.takeWhile set.contains = skipped ++ list ∧
        (∀ c ∈ skipped, blank.contains c = true) ∧
        (goOn (.seq (run blank) (keptRun set)) m).head? =
          some ⟨last, m.ahead.dropWhile set.contains, m.kept ++ [list]⟩ := by
  obtain ⟨before, ahead, kept⟩ := m
  induction ahead generalizing before with
  | nil =>
      refine Or.inl ⟨rfl, ?_⟩
      rw [goOn_seq, goOn_run]
      simp [goOn_keptRun]
  | cons c cs ih =>
      cases hset : set.contains c with
      | false =>
          have hc : blank.contains c = false := by
            rw [← Bool.not_eq_true]
            intro hc
            rw [hblank c hc] at hset
            cases hset
          refine Or.inl ⟨by simp [hset], ?_⟩
          rw [goOn_seq, goOn_run_of_not hc, List.flatMap_singleton, goOn_keptRun_of_not hset]
      | true =>
          refine Or.inr ?_
          obtain ⟨last, hall⟩ := exists_head?_goOn_keptRun hset before cs kept
          cases hc : blank.contains c with
          | false =>
              refine ⟨[], _, last, rfl, by simp, ?_⟩
              rw [goOn_seq, goOn_run_of_not hc, List.flatMap_singleton, hall]
              rfl
          | true =>
              have htake : (c :: cs).takeWhile set.contains = c :: cs.takeWhile set.contains :=
                List.takeWhile_cons_of_pos hset
              have hdrop : (c :: cs).dropWhile set.contains = cs.dropWhile set.contains :=
                List.dropWhile_cons_of_pos hset
              rw [goOn_seq, goOn_run_cons hc, List.flatMap_append, ← goOn_seq, List.head?_append]
              rcases ih (some c) with
                ⟨-, hfail⟩ | ⟨skipped, list, last', hlist, hskipped, hhead⟩
              · -- The characters behind the blank are none of the set, so the blank is given back.
                refine ⟨[], _, last, rfl, by simp, ?_⟩
                rw [hfail, List.flatMap_singleton, hall]
                rfl
              · refine ⟨c :: skipped, list, last', by simp [htake, hlist], ?_, ?_⟩
                · exact List.forall_mem_cons.2 ⟨hc, hskipped⟩
                · rw [hhead, hdrop]
                  rfl

/-! ## A pattern that may be left out -/

theorem goOn_optional (p : Pattern) (m : Match) :
    goOn (.iterate p 0 (some 1)) m = goOn p m ++ [m] := by
  have honce : ∀ n, repeated (goOn p) 0 (some 0) n = [n] := by
    intro n
    rw [repeated, if_pos rfl]
  rw [goOn, repeated, if_neg (by simp)]
  simp [honce]

/-! ## Anchored patterns -/

/-- A pattern that only matches at the start of a text is not looked for further to the right. -/
theorem search_eq_head? {p : Pattern} (h : ∀ m : Match, ¬ m.before.isNone = true → goOn p m = [])
    (text : List Char) : search p none text = (goOn p ⟨none, text, []⟩).head? := by
  have hlater : ∀ (c : Char) (cs : List Char), search p (some c) cs = none := by
    intro c cs
    induction cs generalizing c with
    | nil => rw [search, h _ (by simp), List.head?_nil]
    | cons d ds ih => rw [search, h _ (by simp), List.head?_nil, ih, Option.none_or]
  cases text with
  | nil => rw [search]
  | cons c cs => rw [search, hlater, Option.or_none]

end Pattern

end ChartLint
