import ChartLint.Pattern.Reader
import ChartLint.Proofs.LineEnds
import ChartLint.Proofs.PreferredMatches
import Mathlib

/-!
# The pattern of suppression comments

Suppression comments have a pattern, `^//\s*noqa(?:\s*:\s*([A-Za-z0-9_,\s]+))?`, and what its
parentheses keep is the list of names.  A directive is read without the pattern, from the front to
the back.  Both ways lead to the same directive (`Directive.ofComment?_eq_captures`).

*Form.*  What the pattern asks for is said as properties of texts.  A comment announces a directive
(`Directive.Announces`), the tail behind the word has a list (`Directive.HasList`), and the list
names something (`Directive.Names`).  The reading is told by them
(`Directive.ofComment?_of_announces`, `Directive.ofTail_cases`).

*Blanks.*  Blanks may stand in front of a list, and they may stand in it.  So the match may keep the
list without the blanks in front, or, when nothing else is left to keep, with one of them.  The
names are the same, since the pieces between commas are trimmed (`Directive.namesOf_append`).
-/

namespace ChartLint

/-! ## Sets of characters -/

theorem CharSet.contains_blank : CharSet.blank.contains = Text.isBlank := by
  funext c
  have hblank : CharSet.blank = ⟨Text.blankRanges.toList⟩ := by cbv
  rw [hblank, contains, Text.isBlank, Text.inRanges, Array.any_toList]

/-! ## Upper case -/

theorem Text.upperChar_ne_nil (c : Char) : Text.upperChar c ≠ [] := by
  rw [upperChar]
  split
  case isTrue => simp
  case isFalse =>
    split
    case h_1 n codes hfound =>
      have htable : (uppercaseSequences.all fun entry => !entry.2.isEmpty) = true := by
        decide +kernel
      have hentry := Array.all_eq_true'.1 htable _ (Array.mem_of_find?_eq_some hfound)
      simpa using hentry
    case h_2 => simp

theorem Text.uppercase_eq_empty_iff {cs : List Char} :
    Text.uppercase (String.ofList cs) = "" ↔ cs = [] := by
  rw [uppercase, String.toList_ofList, ← String.toList_inj, String.toList_ofList,
    String.toList_empty, List.flatMap_eq_nil_iff]
  constructor
  · intro h
    cases cs with
    | nil => rfl
    | cons c cs => exact absurd (h c List.mem_cons_self) (Text.upperChar_ne_nil c)
  · rintro rfl c hc
    cases hc

namespace Directive

/-- The characters that may stand in a list of names, as a set. -/
def listChars : CharSet :=
  ⟨[⟨0x9, 0xD⟩, ⟨0x20, 0x20⟩, ⟨0x2C, 0x2C⟩, ⟨0x30, 0x39⟩, ⟨0x41, 0x5A⟩, ⟨0x5F, 0x5F⟩, ⟨0x61, 0x7A⟩,
    ⟨0x85, 0x85⟩, ⟨0xA0, 0xA0⟩, ⟨0x1680, 0x1680⟩, ⟨0x2000, 0x200A⟩, ⟨0x2028, 0x2029⟩,
    ⟨0x202F, 0x202F⟩, ⟨0x205F, 0x205F⟩, ⟨0x3000, 0x3000⟩]⟩

theorem contains_listChars : listChars.contains = isListChar := by
  funext c
  by_cases hascii : c.toNat < 128
  · exact Lexer.forall_ascii (P := fun c => listChars.contains c = isListChar c)
      (by decide +kernel) hascii
  · have halphanum : c.isAlphanum = false := by
      rw [← Bool.not_eq_true]
      exact fun h => hascii (Lexer.toNat_lt_of_isAlphanum h)
    have hother : c ≠ '_' ∧ c ≠ ',' := by
      constructor <;> (rintro rfl; exact hascii (by decide))
    rw [isListChar, halphanum, beq_eq_false_iff_ne.2 hother.1, beq_eq_false_iff_ne.2 hother.2,
      Bool.eq_iff_iff]
    simp only [CharSet.contains, listChars, Text.isBlank, Text.inRanges, Text.blankRanges,
      Text.CodeRange.contains, List.any_cons, List.any_nil, List.any_toArray, Bool.or_eq_true,
      Bool.and_eq_true, decide_eq_true_eq, Bool.false_or, Bool.or_false]
    omega

theorem isListChar_of_isBlank {c : Char} (h : Text.isBlank c = true) : isListChar c = true := by
  rw [isListChar, h, Bool.or_true]

/-! ## The form of a suppression comment -/

/-- Two slashes, any blanks and the word `noqa`, with the tail behind them. -/
def Announces (text tail : List Char) : Prop :=
  ∃ blanks, (∀ c ∈ blanks, Text.isBlank c = true) ∧
    text = ['/', '/'] ++ blanks ++ ['n', 'o', 'q', 'a'] ++ tail

/-- Any blanks, a colon and the list, which no character that may stand in a list follows. -/
def HasList (tail list : List Char) : Prop :=
  ∃ blanks rest, (∀ c ∈ blanks, Text.isBlank c = true) ∧ (∀ c ∈ list, isListChar c = true) ∧
    (∀ c ∈ rest.head?, isListChar c = false) ∧ tail = blanks ++ ':' :: list ++ rest

/-- The name is one of the pieces of the list, trimmed and in upper case.  A piece of blanks is
none. -/
def Names (tail : List Char) (name : String) : Prop :=
  ∃ list, HasList tail list ∧ ∃ piece ∈ Text.splitAt ',' list,
    Text.trimChars piece ≠ [] ∧ name = Text.uppercase (String.ofList (Text.trimChars piece))

theorem dropWhile_blanks {p : Char → Bool} {blanks cs : List Char} {c : Char}
    (hblanks : ∀ b ∈ blanks, p b = true) (hc : p c = false) :
    (blanks ++ c :: cs).dropWhile p = c :: cs := by
  rw [List.dropWhile_append_of_pos hblanks, List.dropWhile_cons_of_neg (by simp [hc])]

theorem announces_iff {text tail : List Char} :
    Announces text tail ↔ ∃ rest, text = '/' :: '/' :: rest ∧
      rest.dropWhile Text.isBlank = ['n', 'o', 'q', 'a'] ++ tail := by
  constructor
  · rintro ⟨blanks, hblanks, rfl⟩
    refine ⟨blanks ++ 'n' :: 'o' :: 'q' :: 'a' :: tail, by simp, ?_⟩
    exact dropWhile_blanks hblanks (by decide +kernel)
  · rintro ⟨rest, rfl, hword⟩
    refine ⟨rest.takeWhile Text.isBlank, fun c hc => List.mem_takeWhile_imp hc, ?_⟩
    simp [← hword]

theorem hasList_iff {tail list : List Char} :
    HasList tail list ↔ ∃ rest, tail.dropWhile Text.isBlank = ':' :: rest ∧
      list = rest.takeWhile isListChar := by
  constructor
  · rintro ⟨blanks, rest, hblanks, hlist, hrest, rfl⟩
    refine ⟨list ++ rest, ?_, ?_⟩
    · rw [List.append_assoc]
      exact dropWhile_blanks hblanks (by decide +kernel)
    · rw [List.takeWhile_append_of_pos hlist]
      cases rest with
      | nil => simp
      | cons c cs => simp [hrest c rfl]
  · rintro ⟨rest, hcolon, rfl⟩
    refine ⟨tail.takeWhile Text.isBlank, rest.dropWhile isListChar,
      fun c hc => List.mem_takeWhile_imp hc, fun c hc => List.mem_takeWhile_imp hc, ?_, ?_⟩
    · intro c hc
      have hend := List.head?_dropWhile_not isListChar rest
      rwa [hc] at hend
    · rw [List.append_assoc, List.cons_append, List.takeWhile_append_dropWhile, ← hcolon,
        List.takeWhile_append_dropWhile]

theorem HasList.unique {tail list list' : List Char} (h : HasList tail list)
    (h' : HasList tail list') : list = list' := by
  obtain ⟨rest, hrest, rfl⟩ := hasList_iff.1 h
  obtain ⟨rest', hrest', rfl⟩ := hasList_iff.1 h'
  rw [hrest, List.cons.injEq] at hrest'
  rw [hrest'.2]

/-! ## The names of a list -/

/-- The names between commas, trimmed and in upper case. -/
def namesOf (list : List Char) : List String :=
  ((Text.splitAt ',' list).map fun piece =>
    Text.uppercase (String.ofList (Text.trimChars piece))).filter (· != "")

/-- What a suppression comment silences, given what the parentheses of its pattern have kept. -/
def ofKept : List (List Char) → Directive
  | [] => .all
  | list :: _ => if (namesOf list).isEmpty then .all else .only (.ofList (namesOf list))

theorem mem_namesOf {list : List Char} {name : String} :
    name ∈ namesOf list ↔ ∃ piece ∈ Text.splitAt ',' list,
      Text.trimChars piece ≠ [] ∧ name = Text.uppercase (String.ofList (Text.trimChars piece)) := by
  rw [namesOf, List.mem_filter, List.mem_map]
  constructor
  · rintro ⟨⟨piece, hpiece, rfl⟩, hname⟩
    refine ⟨piece, hpiece, ?_, rfl⟩
    intro hempty
    rw [hempty] at hname
    exact absurd hname (by decide)
  · rintro ⟨piece, hpiece, hne, rfl⟩
    refine ⟨⟨piece, hpiece, rfl⟩, ?_⟩
    simpa [Text.uppercase_eq_empty_iff] using hne

/-- Blanks in front of a list do not count. -/
theorem namesOf_append {blanks : List Char} (hblanks : ∀ c ∈ blanks, Text.isBlank c = true)
    (list : List Char) : namesOf (blanks ++ list) = namesOf list := by
  induction blanks with
  | nil => rfl
  | cons c blanks ih =>
      obtain ⟨hc, hblanks⟩ := List.forall_mem_cons.1 hblanks
      have hcomma : c ≠ ',' := by
        rintro rfl
        exact absurd hc (by decide +kernel)
      obtain ⟨piece, pieces, hsplit⟩ :=
        List.exists_cons_of_ne_nil (Text.splitAt_ne_nil ',' (blanks ++ list))
      have htrim : Text.trimChars (c :: piece) = Text.trimChars piece := by
        rw [Text.trimChars, List.dropWhile_cons_of_pos hc, Text.trimChars]
      rw [← ih hblanks, List.cons_append, namesOf, namesOf, Text.splitAt, if_neg hcomma, hsplit]
      dsimp only
      rw [List.map_cons, List.map_cons, htrim]

theorem ofTail_of_hasList {tail list : List Char} (h : HasList tail list) :
    ofTail tail = ofKept [list] := by
  obtain ⟨rest, hcolon, rfl⟩ := hasList_iff.1 h
  rw [ofTail, hcolon]
  rfl

theorem ofTail_of_not_hasList {tail : List Char} (h : ¬ ∃ list, HasList tail list) :
    ofTail tail = .all := by
  refine ofTail_eq_all fun hcolon => h ?_
  obtain ⟨rest, hrest⟩ := List.head?_eq_some_iff.1 hcolon
  exact ⟨_, hasList_iff.2 ⟨rest, hrest, rfl⟩⟩

/-- A list with names silences these, and every other comment that announces a directive silences
everything. -/
theorem ofTail_cases (tail : List Char) :
    (∃ names : NameSet, (∃ name, Names tail name) ∧ ofTail tail = .only names ∧
        ∀ name, name ∈ names ↔ Names tail name) ∨
      ((¬ ∃ name, Names tail name) ∧ ofTail tail = .all) := by
  by_cases h : ∃ list, HasList tail list
  · obtain ⟨list, hlist⟩ := h
    have hnames : ∀ name, name ∈ namesOf list ↔ Names tail name := by
      intro name
      rw [mem_namesOf]
      constructor
      · exact fun hname => ⟨list, hlist, hname⟩
      · rintro ⟨list', hlist', hname⟩
        rwa [hlist.unique hlist']
    rw [ofTail_of_hasList hlist, ofKept]
    cases hlisted : namesOf list with
    | nil =>
        refine Or.inr ⟨?_, rfl⟩
        rintro ⟨name, hname⟩
        rw [← hnames, hlisted] at hname
        cases hname
    | cons first rest =>
        refine Or.inl ⟨.ofList (namesOf list), ⟨first, ?_⟩, by rw [hlisted]; rfl, fun name => ?_⟩
        · rw [← hnames, hlisted]
          exact List.mem_cons_self
        · rw [NameSet.mem_ofList, hnames]
  · refine Or.inr ⟨?_, ofTail_of_not_hasList h⟩
    rintro ⟨name, list, hlist, -⟩
    exact h ⟨list, hlist⟩

/-- A comment is a directive if it announces one. -/
theorem ofComment?_of_announces {text : String} {tail : List Char}
    (h : Announces text.toList tail) : ofComment? text = some (ofTail tail) := by
  obtain ⟨rest, htext, hword⟩ := announces_iff.1 h
  rw [← String.ofList_toList (s := text), htext, ofComment?_eq, hword,
    if_pos (List.prefix_append _ _)]
  rfl

theorem ofComment?_eq_none {text : String} (h : ¬ ∃ tail, Announces text.toList tail) :
    ofComment? text = none := by
  rw [ofComment?]
  split
  case h_1 rest htext =>
    split
    case h_1 tail hword => exact absurd ⟨tail, announces_iff.2 ⟨rest, htext, hword⟩⟩ h
    case h_2 => rfl
  case h_2 => rfl

theorem exists_announces {text : String} {d : Directive} (h : ofComment? text = some d) :
    ∃ tail, Announces text.toList tail := by
  by_contra hnone
  rw [ofComment?_eq_none hnone] at h
  cases h

/-! ## The pattern of suppression comments -/

open Pattern (lit run keptRun literally goOn)

/-- A colon and a list of names, with any blanks in front of either. -/
def listing : Pattern :=
  .seq (.seq (run .blank) (lit ':')) (.seq (run .blank) (keptRun listChars))

/-- The pattern of suppression comments.  Its parts stand in pairs, as the reader puts them. -/
def pattern : Pattern :=
  .seq
    (.seq (.seq (.seq (.anchor .textStart) (lit '/')) (.seq (lit '/') (run .blank)))
      (.seq (.seq (lit 'n') (lit 'o')) (.seq (lit 'q') (lit 'a'))))
    (.iterate listing 0 (some 1))

theorem read_pattern :
    Pattern.read "^//\\s*noqa(?:\\s*:\\s*([A-Za-z0-9_,\\s]+))?" = .ok pattern := by
  cbv

/-- A match does not see how the parts are paired. -/
theorem goOn_pattern (m : Match) :
    goOn pattern m = goOn (.seq (.anchor .textStart) (literally ['/', '/'] (.seq (run .blank)
      (literally ['n', 'o', 'q', 'a'] (.iterate listing 0 (some 1)))))) m := by
  simp only [pattern, literally, List.foldr_cons, List.foldr_nil, Pattern.goOn_seq_eq,
    List.flatMap_assoc]

theorem goOn_listing (m : Match) :
    goOn listing m = goOn (.seq (run .blank)
      (literally [':'] (.seq (run .blank) (keptRun listChars)))) m := by
  simp only [listing, literally, List.foldr_cons, List.foldr_nil, Pattern.goOn_seq_eq,
    List.flatMap_assoc]

/-- What the pattern of a word matches starts with the word. -/
theorem goOn_literally_of_blank {c : Char} (hc : Text.isBlank c = false) (word : List Char)
    (p : Pattern) (n : Match) (d : Char) (cs : List Char) (hahead : n.ahead = d :: cs)
    (hd : CharSet.blank.contains d = true) : goOn (literally (c :: word) p) n = [] := by
  refine Pattern.goOn_literally_of_not_prefix ?_ p
  rw [hahead, List.cons_prefix_cons]
  rintro ⟨rfl, -⟩
  rw [CharSet.contains_blank, hc] at hd
  cases hd

/-- Blanks in front of a word are passed over, all of them. -/
theorem exists_goOn_blanks_literally {c : Char} (hc : Text.isBlank c = false) (word : List Char)
    (p : Pattern) (before : Option Char) (ahead : List Char) :
    ∃ last, goOn (.seq (run .blank) (literally (c :: word) p)) ⟨before, ahead, []⟩ =
      goOn (literally (c :: word) p) ⟨last, ahead.dropWhile Text.isBlank, []⟩ := by
  rw [Pattern.goOn_seq, ← CharSet.contains_blank]
  exact Pattern.exists_flatMap_goOn_run (goOn_literally_of_blank hc word p) _

/-- The match of a list keeps the list but for blanks in front.  There is none for an empty list. -/
theorem goOn_listing_of_hasList {tail list : List Char} (h : HasList tail list)
    (before : Option Char) :
    (list = [] ∧ goOn listing ⟨before, tail, []⟩ = []) ∨
      ∃ skipped kept last ahead, list = skipped ++ kept ∧
        (∀ c ∈ skipped, Text.isBlank c = true) ∧
        (goOn listing ⟨before, tail, []⟩).head? = some ⟨last, ahead, [kept]⟩ := by
  obtain ⟨rest, hcolon, rfl⟩ := hasList_iff.1 h
  rw [← List.singleton_append] at hcolon
  obtain ⟨blank, hblank⟩ := exists_goOn_blanks_literally (c := ':') (by decide +kernel) []
    (.seq (run .blank) (keptRun listChars)) before tail
  obtain ⟨last, hlast⟩ := Pattern.goOn_literally_append [':']
    (.seq (run .blank) (keptRun listChars)) blank rest []
  have hsub : ∀ c, CharSet.blank.contains c = true → listChars.contains c = true := by
    rw [CharSet.contains_blank, contains_listChars]
    exact fun c => isListChar_of_isBlank
  rw [goOn_listing, hblank, hcolon, hlast, ← contains_listChars, ← CharSet.contains_blank]
  rcases Pattern.goOn_blanks_keptRun hsub ⟨last, rest, []⟩ with hnone | ⟨skipped, kept, end', hkept⟩
  · exact Or.inl hnone
  · exact Or.inr ⟨skipped, kept, end', _, hkept⟩

theorem goOn_listing_of_not_hasList {tail : List Char} (h : ¬ ∃ list, HasList tail list)
    (before : Option Char) : goOn listing ⟨before, tail, []⟩ = [] := by
  obtain ⟨blank, hblank⟩ := exists_goOn_blanks_literally (c := ':') (by decide +kernel) []
    (.seq (run .blank) (keptRun listChars)) before tail
  rw [goOn_listing, hblank]
  refine Pattern.goOn_literally_of_not_prefix ?_ _
  rintro ⟨rest, hrest⟩
  exact h ⟨_, hasList_iff.2 ⟨rest, hrest.symm, rfl⟩⟩

/-- What is kept behind the word `noqa` decides what is silenced. -/
theorem exists_head?_goOn_tail (before : Option Char) (tail : List Char) :
    ∃ last ahead kept, (goOn (.iterate listing 0 (some 1)) ⟨before, tail, []⟩).head? =
      some ⟨last, ahead, kept⟩ ∧ ofKept kept = ofTail tail := by
  rw [Pattern.goOn_optional, List.head?_append]
  by_cases h : ∃ list, HasList tail list
  · obtain ⟨list, hlist⟩ := h
    rw [ofTail_of_hasList hlist]
    rcases goOn_listing_of_hasList hlist before with
      ⟨rfl, hnone⟩ | ⟨skipped, kept, last, ahead, rfl, hskipped, hhead⟩
    · have hempty : namesOf [] = [] := by decide
      exact ⟨before, tail, [], by rw [hnone]; rfl, by rw [ofKept, ofKept, hempty]; rfl⟩
    · refine ⟨last, ahead, [kept], by rw [hhead]; rfl, ?_⟩
      rw [ofKept, ofKept, namesOf_append hskipped]
  · rw [ofTail_of_not_hasList h, goOn_listing_of_not_hasList h]
    exact ⟨before, tail, [], rfl, rfl⟩

/-- Behind the slashes the match goes on with the word, behind any blanks. -/
theorem exists_goOn_pattern (rest : List Char) :
    ∃ last, goOn pattern ⟨none, ['/', '/'] ++ rest, []⟩ =
      goOn (literally ['n', 'o', 'q', 'a'] (.iterate listing 0 (some 1)))
        ⟨last, rest.dropWhile Text.isBlank, []⟩ := by
  obtain ⟨slash, hslash⟩ := Pattern.goOn_literally_append ['/', '/']
    (.seq (run .blank) (literally ['n', 'o', 'q', 'a'] (.iterate listing 0 (some 1)))) none rest []
  obtain ⟨last, hlast⟩ := exists_goOn_blanks_literally (c := 'n') (by decide +kernel)
    ['o', 'q', 'a'] (.iterate listing 0 (some 1)) slash rest
  refine ⟨last, ?_⟩
  rw [goOn_pattern, Pattern.goOn_anchor_textStart, if_pos Option.isNone_none, hslash, hlast]

/-- Behind the word the match goes on with the tail. -/
theorem exists_goOn_of_announces {text tail : List Char} (h : Announces text tail) :
    ∃ last, goOn pattern ⟨none, text, []⟩ =
      goOn (.iterate listing 0 (some 1)) ⟨last, tail, []⟩ := by
  obtain ⟨rest, rfl, hword⟩ := announces_iff.1 h
  obtain ⟨before, hbefore⟩ := exists_goOn_pattern rest
  rw [hword] at hbefore
  obtain ⟨last, hlast⟩ := Pattern.goOn_literally_append ['n', 'o', 'q', 'a']
    (.iterate listing 0 (some 1)) before tail []
  exact ⟨last, hbefore.trans hlast⟩

theorem goOn_pattern_of_not_announces {text : List Char} (h : ¬ ∃ tail, Announces text tail) :
    goOn pattern ⟨none, text, []⟩ = [] := by
  by_cases hslashes : ['/', '/'] <+: text
  · obtain ⟨rest, rfl⟩ := hslashes
    obtain ⟨before, hbefore⟩ := exists_goOn_pattern rest
    rw [hbefore]
    refine Pattern.goOn_literally_of_not_prefix ?_ _
    rintro ⟨tail, htail⟩
    exact h ⟨tail, announces_iff.2 ⟨rest, rfl, htail.symm⟩⟩
  · rw [goOn_pattern, Pattern.goOn_anchor_textStart, if_pos Option.isNone_none]
    exact Pattern.goOn_literally_of_not_prefix hslashes _

/-- The directive of a comment is what its preferred match says. -/
theorem ofComment?_eq_captures (text : String) :
    ofComment? text = (pattern.captures? text).map ofKept := by
  have hanchored : ∀ m : Match, ¬ m.before.isNone = true → goOn pattern m = [] := by
    intro m hm
    rw [goOn_pattern, Pattern.goOn_anchor_textStart, if_neg hm]
  rw [Pattern.captures?, Pattern.search_eq_head? hanchored]
  by_cases h : ∃ tail, Announces text.toList tail
  · obtain ⟨tail, htail⟩ := h
    obtain ⟨before, hbefore⟩ := exists_goOn_of_announces htail
    obtain ⟨last, ahead, kept, hhead, hkept⟩ := exists_head?_goOn_tail before tail
    rw [ofComment?_of_announces htail, hbefore, hhead, ← hkept]
    rfl
  · rw [ofComment?_eq_none h, goOn_pattern_of_not_announces h]
    rfl

end Directive

end ChartLint
