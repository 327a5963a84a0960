import ChartLint.Proofs.SuppressionComment
import Mathlib.Data.List.Forall2

/-!
# Line ends with carriage returns

A script whose lines end with a carriage return and a line feed has the findings of the script whose
lines end with a line feed alone.  The carriage return takes three ways through the analysis.

*Tokens.*  The lexer takes it for a blank, so code is not changed.  It comes to stand in a comment
at the end of a line, and a line end stands one column further right (`forall₂_content_return`).

*Directives.*  In a suppression comment it is a blank behind the names, and blanks around a name do
not count (`ofComment?_return`).

*Layout.*  Lines are judged without the carriage return at their end (`sameLines_endsWithReturn`).
-/

namespace ChartLint

/-- A script with a carriage return put in front of every line feed. -/
def withReturns (source : String) : String :=
  String.ofList (source.toList.flatMap fun c => if c = '\n' then ['\r', '\n'] else [c])

/-- Lines with a carriage return at the end of each but the last. -/
def endWithReturn : List (List Char) → List (List Char)
  | [] => []
  | [line] => [line]
  | line :: next :: rest => (line ++ ['\r']) :: endWithReturn (next :: rest)

theorem splitAt_withReturns (cs : List Char) :
    Text.splitAt '\n' (cs.flatMap fun c => if c = '\n' then ['\r', '\n'] else [c]) =
      endWithReturn (Text.splitAt '\n' cs) := by
  induction cs with
  | nil => rfl
  | cons c cs ih =>
      cases hpieces : Text.splitAt '\n' cs with
      | nil => exact absurd hpieces (Text.splitAt_ne_nil '\n' cs)
      | cons piece rest =>
          rw [hpieces] at ih
          rw [List.flatMap_cons, Text.splitAt, hpieces]
          by_cases hc : c = '\n'
          · subst hc
            simp only [if_true, List.cons_append, List.nil_append, Text.splitAt, ih]
            rfl
          · rw [if_neg hc, if_neg hc, List.singleton_append, Text.splitAt, if_neg hc, ih]
            cases rest <;> rfl

/-! ## Layout -/

theorem sameLines_endsWithReturn (ls : List (List Char)) : SameLines ls (endWithReturn ls) := by
  fun_induction endWithReturn ls with
  | case1 => exact .refl []
  | case2 line => exact .refl [line]
  | case3 line next rest ih => exact .cons (sameLayout_return line) ih

/-! ## Directives -/

theorem isBlank_return : Text.isBlank '\r' = true :=
  isBlank_of_isGap (c := '\r') rfl

/-- A carriage return behind some characters is dropped with them if they are all blank, and
otherwise stays behind what is left of them. -/
theorem dropWhile_isBlank_return (cs : List Char) :
    (cs ++ ['\r']).dropWhile Text.isBlank =
      if cs.dropWhile Text.isBlank = [] then [] else cs.dropWhile Text.isBlank ++ ['\r'] := by
  rw [List.dropWhile_append, List.dropWhile_cons_of_pos isBlank_return, List.dropWhile_nil]
  simp only [List.isEmpty_iff]

theorem trimChars_return (cs : List Char) :
    Text.trimChars (cs ++ ['\r']) = Text.trimChars cs := by
  rw [Text.trimChars, Text.trimChars, dropWhile_isBlank_return]
  split
  case isTrue h => rw [h]
  case isFalse => exact trimRight_append_blank isBlank_return _

/-- A carriage return at the end stands in the last of the pieces between commas. -/
theorem exists_splitAt_return (cs : List Char) :
    ∃ front last, Text.splitAt ',' cs = front ++ [last] ∧
      Text.splitAt ',' (cs ++ ['\r']) = front ++ [last ++ ['\r']] := by
  induction cs with
  | nil => exact ⟨[], [], rfl, rfl⟩
  | cons c cs ih =>
      obtain ⟨front, last, hcs, hreturn⟩ := ih
      rw [List.cons_append, Text.splitAt, Text.splitAt, hcs, hreturn]
      by_cases hc : c = ','
      · rw [if_pos hc, if_pos hc]
        exact ⟨[] :: front, last, rfl, rfl⟩
      · rw [if_neg hc, if_neg hc]
        cases front with
        | nil => exact ⟨[], c :: last, rfl, rfl⟩
        | cons piece front => exact ⟨(c :: piece) :: front, last, rfl, rfl⟩

theorem listedNames_return (cs : List Char) :
    Directive.listedNames (cs ++ ['\r']) = Directive.listedNames cs := by
  have hlist : Directive.isListChar '\r' = true := by
    rw [Directive.isListChar, isBlank_return, Bool.or_true]
  rw [Directive.listedNames, Directive.listedNames, List.takeWhile_append]
  split
  case isTrue hall =>
    obtain ⟨front, last, hcs, hreturn⟩ := exists_splitAt_return cs
    rw [(List.takeWhile_prefix _).eq_of_length hall, List.takeWhile_cons_of_pos hlist,
      List.takeWhile_nil, hcs, hreturn, List.map_append, List.map_append, List.map_singleton,
      List.map_singleton, trimChars_return]
  case isFalse => rfl

theorem ofTail_eq_all {tail : List Char}
    (h : (tail.dropWhile Text.isBlank).head? ≠ some ':') : Directive.ofTail tail = .all := by
  rw [Directive.ofTail]
  split
  case h_1 list hlist =>
    rw [hlist] at h
    exact absurd rfl h
  case h_2 => rfl

theorem ofTail_return (tail : List Char) :
    Directive.ofTail (tail ++ ['\r']) = Directive.ofTail tail := by
  have hdrop := dropWhile_isBlank_return tail
  cases htail : tail.dropWhile Text.isBlank with
  | nil =>
      rw [if_pos htail] at hdrop
      rw [ofTail_eq_all (by simp [hdrop]), ofTail_eq_all (by simp [htail])]
  | cons c rest =>
      rw [htail, if_neg (List.cons_ne_nil c rest)] at hdrop
      by_cases hc : c = ':'
      · subst hc
        rw [Directive.ofTail, Directive.ofTail, hdrop, htail, List.cons_append]
        simp only [listedNames_return]
      · rw [ofTail_eq_all (by simp [hdrop, hc]), ofTail_eq_all (by simp [htail, hc])]

/-- A comment is a directive if its first word starts with the letters of `noqa`. -/
theorem ofComment?_eq (cs : List Char) :
    Directive.ofComment? (String.ofList ('/' :: '/' :: cs)) =
      if ['n', 'o', 'q', 'a'] <+: cs.dropWhile Text.isBlank then
        some (Directive.ofTail ((cs.dropWhile Text.isBlank).drop 4))
      else none := by
  rw [Directive.ofComment?, String.toList_ofList]
  split
  case h_1 rest hrest =>
    obtain rfl : cs = rest := List.tail_eq_of_cons_eq (List.tail_eq_of_cons_eq hrest)
    split
    case h_1 tail htail =>
      have hword : ['n', 'o', 'q', 'a'] <+: 'n' :: 'o' :: 'q' :: 'a' :: tail := ⟨tail, rfl⟩
      rw [htail, if_pos hword]
      rfl
    case h_2 hother =>
      rw [if_neg]
      rintro ⟨tail, htail⟩
      exact hother tail htail.symm
  case h_2 hother => exact absurd rfl (hother cs)

/-- A carriage return at the end of a comment does not change its directive. -/
theorem ofComment?_return (cs : List Char) :
    Directive.ofComment? (String.ofList ('/' :: '/' :: (cs ++ ['\r']))) =
      Directive.ofComment? (String.ofList ('/' :: '/' :: cs)) := by
  rw [ofComment?_eq, ofComment?_eq, dropWhile_isBlank_return]
  split
  case isTrue h => rw [h]
  case isFalse =>
    generalize cs.dropWhile Text.isBlank = rest
    have hword : ['n', 'o', 'q', 'a'] <+: rest ++ ['\r'] ↔ ['n', 'o', 'q', 'a'] <+: rest := by
      rw [List.prefix_concat_iff, or_iff_right]
      intro heq
      have hmem : '\r' ∈ ['n', 'o', 'q', 'a'] := heq ▸ List.mem_append_right rest List.mem_cons_self
      revert hmem
      decide
    by_cases h : ['n', 'o', 'q', 'a'] <+: rest
    · have hlength : 4 ≤ rest.length := h.length_le
      rw [if_pos (hword.2 h), if_pos h, List.drop_append_of_le_length hlength, ofTail_return]
    · rw [if_neg (mt hword.1 h), if_neg h]

/-! ## Tokens -/

/-- Tokens that differ at most in what nobody asks: code is the same, and comments stand on the same
line and hold the same directive. -/
structure SameToken (t u : Token) : Prop where
  kind : u.kind = t.kind
  code : t.isCode = true → u = t
  line : t.kind = .comment → u.position.line = t.position.line
  directive : t.kind = .comment → Directive.ofComment? u.text = Directive.ofComment? t.text

theorem SameToken.refl (t : Token) : SameToken t t :=
  ⟨rfl, fun _ => rfl, fun _ => rfl, fun _ => rfl⟩

/-- The reader keeps what two tokens have in common. -/
theorem SameToken.wrap {t u : Token} (h : SameToken t u) : SameToken t.wrap u.wrap :=
  ⟨h.kind, fun hcode => congrArg Token.wrap (h.code hcode), h.line, h.directive⟩

/-- A carriage return behind a line is a blank, or it stands in the comment at the end. -/
theorem forall₂_content_return {tab : Nat} {p : Position} {line : List Char} (hn : '\n' ∉ line)
    (hstring : ∀ t ∈ Lexer.content tab p line, t.kind = .stringLiteral → t.isTerminated = true) :
    List.Forall₂ SameToken (Lexer.content tab p line) (Lexer.content tab p (line ++ ['\r'])) := by
  fun_induction Lexer.scan tab p line with
  | case1 p =>
      rw [List.nil_append, Lexer.content_gap tab p rfl, Lexer.content_nil, Lexer.content_nil]
      exact .nil
  | case2 p c cs hc ih =>
      rw [Lexer.content_gap tab p hc] at hstring
      rw [List.cons_append, Lexer.content_gap tab p hc, Lexer.content_gap tab p hc]
      exact ih (List.not_mem_of_not_mem_cons hn) hstring
  | case3 p c cs hc s text ih =>
      have hgap : Lexer.isGap c = false := by simpa using hc
      have hcs : '\n' ∉ cs := List.not_mem_of_not_mem_cons hn
      rw [Lexer.content_token tab p hgap] at hstring
      obtain ⟨hfirst, hrest⟩ := List.forall_mem_cons.1 hstring
      by_cases hcomplete : Lexer.IsComplete c cs
      · have hlen := Lexer.extent_le c cs
        rw [List.cons_append, Lexer.content_token tab p hgap, Lexer.content_token tab p hgap,
          Lexer.shape_append_gap rfl hcomplete, List.take_append_of_le_length hlen,
          List.drop_append_of_le_length hlen]
        exact .cons (.refl _) (ih (fun h => hcs (List.mem_of_mem_drop h)) hrest)
      · rcases Lexer.not_isComplete_cases hcomplete with ⟨-, rfl, hhead⟩ | ⟨hkind, -, -⟩
        · obtain ⟨rest, rfl⟩ := List.head?_eq_some_iff.1 hhead
          have hnew : '\n' ∉ rest := List.not_mem_of_not_mem_cons hcs
          rw [content_slashes tab p hnew, List.cons_append, List.cons_append,
            content_slashes tab p (by simpa using hnew)]
          refine .cons ⟨rfl, ?_, fun _ => rfl, fun _ => ofComment?_return rest⟩ .nil
          intro hcode
          cases hcode
        · refine absurd (Lexer.isComplete_iff.2 ⟨?_, hfirst⟩) hcomplete
          rw [hkind]
          intro h
          cases h

/-- The tokens of two line ends differ in their column alone. -/
theorem sameToken_lineEnd (tab number : Nat) (line line' : List Char) (isLast : Bool) :
    SameToken (Lexer.lineEnd tab number line isLast) (Lexer.lineEnd tab number line' isLast) := by
  refine ⟨rfl, ?_, ?_, ?_⟩
  · intro hcode
    rw [Lexer.isCode_lineEnd] at hcode
    cases hcode
  · intro hkind
    cases isLast <;> cases hkind
  · intro hkind
    cases isLast <;> cases hkind

theorem isEmpty_endWithReturn (ls : List (List Char)) :
    (endWithReturn ls).isEmpty = ls.isEmpty := by
  fun_cases endWithReturn ls <;> rfl

theorem forall₂_scanLines_return {tab number : Nat} {ls : List (List Char)}
    (hn : ∀ l ∈ ls, '\n' ∉ l)
    (hstring : ∀ t ∈ Lexer.scanLines tab number ls, t.kind = .stringLiteral →
      t.isTerminated = true) :
    List.Forall₂ SameToken (Lexer.scanLines tab number ls)
      (Lexer.scanLines tab number (endWithReturn ls)) := by
  fun_induction endWithReturn ls generalizing number with
  | case1 => exact .nil
  | case2 line => exact List.forall₂_same.2 fun t _ => .refl t
  | case3 line next rest ih =>
      obtain ⟨hline, hrest⟩ := List.forall_mem_cons.1 hn
      rw [Lexer.scanLines] at hstring
      obtain ⟨hcontent, hbehind⟩ := List.forall_mem_append.1 hstring
      rw [Lexer.scanLines.eq_2 tab number line, Lexer.scanLines.eq_2 tab number (line ++ ['\r']),
        isEmpty_endWithReturn]
      refine List.rel_append (forall₂_content_return hline hcontent) (.cons ?_ ?_)
      · exact sameToken_lineEnd tab number line (line ++ ['\r']) _
      · exact ih hrest (List.forall_mem_cons.1 hbehind).2

/-! ## Scripts -/

variable {ts us : List Token}

theorem sameCode_of_forall₂ (h : List.Forall₂ SameToken ts us) (start : Nat) :
    SameCode ⟨id, strictMono_id⟩ (numberFrom start ts) (numberFrom start us) := by
  induction h generalizing start with
  | nil => exact .nil
  | @cons t u ts us htoken _ ih =>
      rw [numberFrom_cons, numberFrom_cons]
      cases hcode : t.isCode with
      | true =>
          rw [htoken.code hcode]
          exact .code hcode (ih (start + 1))
      | false => exact .silent hcode htoken.kind rfl (ih (start + 1))

/-- The outline stays the same, numbers included. -/
theorem matches_of_forall₂ (h : List.Forall₂ SameToken ts us) :
    Outline.Matches ⟨id, strictMono_id⟩ (.ofTokens (numberTokens ts))
      (.ofTokens (numberTokens us)) := by
  refine Outline.matches_ofTokens (sameCode_of_forall₂ h 0) ?_
  rw [numberTokens, numberTokens, List.length_map, List.length_map, List.length_zipIdx,
    List.length_zipIdx, h.length_eq]
  rfl

theorem suppressions_of_forall₂ (h : List.Forall₂ SameToken ts us) :
    Suppressions.ofTokens us = Suppressions.ofTokens ts := by
  rw [Suppressions.ofTokens, Suppressions.ofTokens]
  congr 1
  induction h with
  | nil => rfl
  | @cons t u ts us htoken _ ih =>
      rw [List.filterMap_cons, List.filterMap_cons, ih, htoken.kind]
      by_cases hcomment : t.kind = .comment
      · rw [htoken.line hcomment, htoken.directive hcomment]
      · simp [hcomment]

/-- Carriage returns in front of the line feeds do not change the findings of a script in which
every string is closed on its line, whether or not there are other carriage returns in it. -/
theorem lintSource_withReturns {source : String} {rules : List Category} {s : Settings}
    (hstring : ∀ t ∈ tokenize source s.tabWidth, t.kind = .stringLiteral →
      t.isTerminated = true) :
    lintSource (withReturns source) rules s = lintSource source rules s := by
  have hsplit : Text.splitAt '\n' (withReturns source).toList =
      endWithReturn (Text.splitAt '\n' source.toList) := by
    rw [withReturns, String.toList_ofList, splitAt_withReturns]
  have htokens : List.Forall₂ SameToken (tokenize source s.tabWidth)
      (tokenize (withReturns source) s.tabWidth) := by
    rw [tokenize_eq_scanLines] at hstring
    rw [tokenize_eq_scanLines, tokenize_eq_scanLines, hsplit]
    exact forall₂_scanLines_return (fun l hl => Text.not_mem_of_mem_splitAt hl) hstring
  have hread : List.Forall₂ SameToken (readTokens source s.tabWidth)
      (readTokens (withReturns source) s.tabWidth) := by
    rw [readTokens_eq, readTokens_eq, List.forall₂_map_left_iff, List.forall₂_map_right_iff]
    exact htokens.imp fun _ _ h => h.wrap
  have hlines : SameLines (Text.splitAt '\n' source.toList)
      (Text.splitAt '\n' (withReturns source).toList) := by
    rw [hsplit]
    exact sameLines_endsWithReturn _
  have houtline := matches_of_forall₂ hread
  rw [← Outline.read_eq, ← Outline.read_eq] at houtline
  have hfound : rules.flatMap (·.check (.read (withReturns source) s)) =
      rules.flatMap (·.check (.read source s)) :=
    List.flatMap_congr fun c _ => check_eq_of_matches houtline hlines c
  rw [lintSource, lintSource, hfound, map_toToken_read, map_toToken_read,
    suppressions_of_forall₂ hread]

/-- A call over two lines, with a string that a comment silences and a line that is not indented. -/
theorem lintSource_withReturns_call :
    let source := "plot('a', // noqa: PINE001\nb)"
    lintSource (withReturns source) Category.all {} = lintSource source Category.all {} ∧
      (lintSource source Category.all {}).map (·.position) = [⟨2, 1⟩] := by
  intro source
  exact ⟨lintSource_withReturns (by decide +kernel), by decide +kernel⟩

end ChartLint
