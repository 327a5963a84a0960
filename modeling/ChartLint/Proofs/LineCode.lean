import ChartLint.Layout
import ChartLint.Proofs.LineLexing

/-!
# The code of a line

The layout is judged on the characters of a line and everything else on tokens.  Both skip over
strings, stop at a comment and count brackets, each in its own way, and here they are shown to
agree.

*Tokens.*  Reading the characters of a line passes over one token after the other
(`readCode_token`): the code grows by the text of the token, and the depth changes as the token says.
So the two depths agree at the end of every line (`depth_readCode`).

*Blanks.*  A blank behind whole tokens is read like a blank at the start of a line, at the depth that
the tokens leave (`readCode_append`).
-/

namespace ChartLint

/-! ## Reading over a token -/

/-- Put characters that were read before in front of what is read. -/
def behindCode (cs : List Char) (r : List Char × Nat) : List Char × Nat :=
  (cs ++ r.1, r.2)

@[simp] theorem behindCode_fst (cs : List Char) (r : List Char × Nat) :
    (behindCode cs r).1 = cs ++ r.1 := rfl

@[simp] theorem behindCode_snd (cs : List Char) (r : List Char × Nat) :
    (behindCode cs r).2 = r.2 := rfl

theorem behindCode_append (cs ds : List Char) (r : List Char × Nat) :
    behindCode (cs ++ ds) r = behindCode cs (behindCode ds r) := by
  simp [behindCode]

/-- In a string a backslash takes the next character with it. -/
theorem readCode_escape (quote : Char) (depth : Nat) (e : Char) (es : List Char) :
    readCode (some quote) depth ('\\' :: e :: es) =
      behindCode ['\\', e] (readCode (some quote) depth es) := by
  rw [readCode.eq_def]
  rfl

/-- In a string any other character is read over, and the quote closes the string. -/
theorem readCode_string {c : Char} (hc : c ≠ '\\') (quote : Char) (depth : Nat) (cs : List Char) :
    readCode (some quote) depth (c :: cs) =
      behindCode [c] (readCode (if c = quote then none else some quote) depth cs) := by
  rw [readCode.eq_def]
  simp only [if_neg hc]
  rfl

/-- Outside strings a comment ends the code. -/
theorem readCode_comment {c : Char} {cs : List Char} (h : c = '/' ∧ cs.head? = some '/')
    (depth : Nat) : readCode none depth (c :: cs) = ([], depth) := by
  rw [readCode.eq_def]
  simp only [if_pos h]

/-- Outside strings any other character is read over, and a quote opens a string. -/
theorem readCode_code {c : Char} {cs : List Char} (h : ¬ (c = '/' ∧ cs.head? = some '/'))
    (depth : Nat) :
    readCode none depth (c :: cs) =
      behindCode [c] (readCode (if c = '"' ∨ c = '\'' then some c else none)
        (depthAfterChar depth c) cs) := by
  rw [readCode.eq_def]
  simp only [if_neg h]
  rfl

/-- A character that means nothing to the reader of a line: no bracket, no quote and no slash. -/
def isPlain (c : Char) : Bool :=
  !(isOpeningChar c || isClosingChar c || c == '"' || c == '\'' || c == '/')

theorem readCode_plain {cs : List Char} (h : ∀ c ∈ cs, isPlain c = true) (depth : Nat)
    (ds : List Char) : readCode none depth (cs ++ ds) = behindCode cs (readCode none depth ds) := by
  induction cs with
  | nil => rfl
  | cons c cs ih =>
      obtain ⟨hc, hcs⟩ := List.forall_mem_cons.1 h
      simp only [isPlain, Bool.not_eq_true', Bool.or_eq_false_iff, beq_eq_false_iff_ne] at hc
      obtain ⟨⟨⟨⟨hopen, hclose⟩, hq⟩, ha⟩, hs⟩ := hc
      have hdepth : depthAfterChar depth c = depth := by simp [depthAfterChar, hopen, hclose]
      rw [List.cons_append, readCode_code (fun h => hs h.1), if_neg (by simp [hq, ha]), hdepth,
        ih hcs, ← behindCode_append]
      rfl

/-- Reading goes over a string that is closed, and goes on behind it. -/
theorem readCode_closed {quote : Char} {cs : List Char} (h : Lexer.closes quote cs = true)
    (depth : Nat) :
    readCode (some quote) depth cs =
      behindCode (cs.take (Lexer.stringExtent quote cs))
        (readCode none depth (cs.drop (Lexer.stringExtent quote cs))) := by
  fun_induction Lexer.stringExtent quote cs with
  | case1 => simp [Lexer.closes] at h
  | case2 es => simp at h
  | case3 => simp [Lexer.closes] at h
  | case4 es => simp [Lexer.closes] at h
  | case5 e es he hc ih =>
      rw [readCode_escape, ih (by simpa [Lexer.closes, he] using h)]
      rfl
  | case6 es hn hb =>
      rw [readCode_string hb, if_pos rfl]
      rfl
  | case7 e es hn hb hq ih =>
      rw [readCode_string hb, if_neg hq, ih (by simpa [hn, hb, hq] using h)]
      rfl

/-- A string that nothing closes takes the rest of its line. -/
theorem readCode_open {quote : Char} {cs : List Char} (h : Lexer.closes quote cs = false)
    (hn : '\n' ∉ cs) (depth : Nat) : readCode (some quote) depth cs = (cs, depth) := by
  fun_induction Lexer.stringExtent quote cs with
  | case1 => rfl
  | case2 es => simp at hn
  | case3 => rw [readCode.eq_def]; rfl
  | case4 es => simp at hn
  | case5 e es he hc ih =>
      rw [readCode_escape, ih (by simpa [Lexer.closes, he] using h) (by simp_all)]
      rfl
  | case6 es hq hb => simp [hq, hb] at h
  | case7 e es hn' hb hq ih =>
      rw [readCode_string hb, if_neg hq, ih (by simpa [hn', hb, hq] using h) (by simp_all)]
      rfl

/-! ## Tokens and brackets -/

theorem shape_bracket {c : Char} (hc : isOpeningChar c = true ∨ isClosingChar c = true)
    (cs : List Char) : Lexer.shape c cs = ⟨.punctuation, 0⟩ := by
  have hdouble : cs.head?.any (fun d => Lexer.doubleOperators.contains (c, d)) = false := by
    simp only [isOpeningChar, isClosingChar, Bool.or_eq_true, beq_iff_eq] at hc
    rcases hc with ((rfl | rfl) | rfl) | ((rfl | rfl) | rfl) <;>
      cases cs <;> simp [Lexer.doubleOperators]
  simp only [isOpeningChar, isClosingChar, Bool.or_eq_true, beq_iff_eq] at hc
  rcases hc with ((rfl | rfl) | rfl) | ((rfl | rfl) | rfl) <;>
    rw [Lexer.shape, Lexer.symbolShape, hdouble] <;> rfl

/-- A token that starts with another character than a bracket leaves the depth as it is. -/
theorem depthAfter_of_cons {t : Token} {c : Char} {cs : List Char} (ht : t.text.toList = c :: cs)
    (hopen : isOpeningChar c = false) (hclose : isClosingChar c = false) (depth : Nat) :
    t.depthAfter depth = depth := by
  have hne (text : String) {d : Char} (htext : text.toList = [d]) (hd : c ≠ d) : t.text ≠ text := by
    rintro rfl
    rw [ht] at htext
    exact hd (List.cons.inj htext).1
  simp only [isOpeningChar, isClosingChar, Bool.or_eq_false_iff, beq_eq_false_iff_ne] at hopen hclose
  have hopening : t.isOpening = false := by
    simp [Token.isOpening, hne "(" rfl hopen.1.1, hne "[" rfl hopen.1.2,
      hne "\x7b" rfl hopen.2]
  have hclosing : t.isClosing = false := by
    simp [Token.isClosing, hne ")" rfl hclose.1.1, hne "]" rfl hclose.1.2,
      hne "\x7d" rfl hclose.2]
  simp [Token.depthAfter, hopening, hclosing]

/-- The depth behind a token is the depth behind its first character. -/
theorem depthAfter_shape (c : Char) (cs : List Char) (p : Position) (depth : Nat) :
    (Token.mk (Lexer.shape c cs).kind (String.ofList (c :: cs.take (Lexer.shape c cs).extent))
      p).depthAfter depth = depthAfterChar depth c := by
  by_cases hbracket : isOpeningChar c = true ∨ isClosingChar c = true
  · rw [shape_bracket hbracket]
    simp only [isOpeningChar, isClosingChar, Bool.or_eq_true, beq_iff_eq] at hbracket
    rcases hbracket with ((rfl | rfl) | rfl) | ((rfl | rfl) | rfl) <;> rfl
  · simp only [not_or, Bool.not_eq_true] at hbracket
    rw [depthAfter_of_cons String.toList_ofList hbracket.1 hbracket.2, depthAfterChar, hbracket.1,
      hbracket.2]
    rfl

theorem plain_of_isInner {c : Char} (h : Lexer.isInner c = true) : isPlain c = true := by
  rw [isPlain, Bool.not_eq_true']
  by_contra hc
  simp only [Bool.not_eq_false, isOpeningChar, isClosingChar, Bool.or_eq_true, beq_iff_eq] at hc
  rcases hc with ((((((rfl | rfl) | rfl) | ((rfl | rfl) | rfl)) | rfl) | rfl) | rfl) <;>
    revert h <;> decide

/-- Reading goes over a whole token: the code grows by its text, and the depth changes as the token
says. -/
theorem readCode_token {c : Char} {cs : List Char} (h : Lexer.IsComplete c cs) (p : Position)
    (depth : Nat) :
    readCode none depth (c :: cs) =
      behindCode (c :: cs.take (Lexer.shape c cs).extent)
        (readCode none ((Token.mk (Lexer.shape c cs).kind
          (String.ofList (c :: cs.take (Lexer.shape c cs).extent)) p).depthAfter depth)
          (cs.drop (Lexer.shape c cs).extent)) := by
  obtain ⟨hcomment, hclosed⟩ := h
  rw [depthAfter_shape]
  by_cases hstring : (Lexer.shape c cs).kind = .stringLiteral
  · obtain ⟨hquote, hextent⟩ := (Lexer.extent_of_kind c cs).1 hstring
    have hdepth : depthAfterChar depth c = depth := by rcases hquote with rfl | rfl <;> rfl
    have hslash : ¬ (c = '/' ∧ cs.head? = some '/') := by
      rintro ⟨rfl, -⟩
      simp at hquote
    rw [hextent, readCode_code hslash, if_pos hquote, hdepth, readCode_closed (hclosed hstring),
      ← behindCode_append]
    rfl
  · have hquote : ¬ (c = '"' ∨ c = '\'') := by
      intro hc
      refine hstring ?_
      rcases hc with rfl | rfl <;> rfl
    have hslash : ¬ (c = '/' ∧ cs.head? = some '/') := by
      rintro ⟨rfl, hcs⟩
      refine hcomment ?_
      simp [Lexer.shape, hcs]
    have hinner := Lexer.inner_extent hstring hcomment
    calc readCode none depth (c :: cs)
        = behindCode [c] (readCode none (depthAfterChar depth c)
            (cs.take (Lexer.shape c cs).extent ++ cs.drop (Lexer.shape c cs).extent)) := by
          rw [List.take_append_drop, readCode_code hslash, if_neg hquote]
      _ = _ := by
          rw [readCode_plain fun d hd => plain_of_isInner (hinner d hd), ← behindCode_append]
          rfl

theorem readCode_gap {c : Char} (hc : Lexer.isGap c = true) (depth : Nat) (cs : List Char) :
    readCode none depth (c :: cs) = behindCode [c] (readCode none depth cs) := by
  rcases Lexer.IsBoundary.elim (Or.inr hc) with rfl | rfl | rfl | rfl <;>
    exact readCode_code (by simp) depth

/-- A token that is not whole is the last one of its line and no bracket.  Reading leaves out a
comment and goes over a string that nothing closes. -/
theorem readCode_not_isComplete {c : Char} {cs : List Char} (h : ¬ Lexer.IsComplete c cs)
    (hn : '\n' ∉ cs) (depth : Nat) :
    readCode none depth (c :: cs) =
        (if (Lexer.shape c cs).kind = .comment then [] else c :: cs, depth) ∧
      depthAfterChar depth c = depth := by
  rcases Lexer.not_isComplete_cases h with ⟨hkind, hslash⟩ | ⟨hkind, hquote, hopen⟩
  · refine ⟨?_, by rw [hslash.1]; rfl⟩
    rw [if_pos hkind, readCode_comment hslash]
  · have hdepth : depthAfterChar depth c = depth := by rcases hquote with rfl | rfl <;> rfl
    have hslash : ¬ (c = '/' ∧ cs.head? = some '/') := by
      rintro ⟨rfl, -⟩
      simp at hquote
    refine ⟨?_, hdepth⟩
    rw [hkind, readCode_code hslash, if_pos hquote, hdepth, readCode_open hopen hn]
    rfl

/-- The bracket depth behind some tokens. -/
def depthBehind (tokens : List Token) (depth : Nat) : Nat :=
  tokens.foldl (fun n t => t.depthAfter n) depth

@[simp] theorem depthBehind_nil (depth : Nat) : depthBehind [] depth = depth := rfl

@[simp] theorem depthBehind_cons (t : Token) (tokens : List Token) (depth : Nat) :
    depthBehind (t :: tokens) depth = depthBehind tokens (t.depthAfter depth) := rfl

theorem depthAfter_of_not_isCode {t : Token} (h : t.isCode = false) (depth : Nat) :
    t.depthAfter depth = depth := by
  have hkind : (t.kind == .punctuation) = false := by
    rw [beq_eq_false_iff_ne]
    intro hkind
    simp [Token.isCode, hkind] at h
  simp [Token.depthAfter, Token.isOpening, Token.isClosing, hkind]

theorem depthBehind_append (ts us : List Token) (depth : Nat) :
    depthBehind (ts ++ us) depth = depthBehind us (depthBehind ts depth) :=
  List.foldl_append

/-- At the end of a line the bracket depth is that behind its tokens. -/
theorem depth_readCode {cs : List Char} (h : '\n' ∉ cs) (tab : Nat) (p : Position) (depth : Nat) :
    (readCode none depth cs).2 = depthBehind (Lexer.content tab p cs) depth := by
  fun_induction Lexer.scan tab p cs generalizing depth with
  | case1 p => simp [readCode]
  | case2 p c cs hc ih =>
      rw [readCode_gap hc, Lexer.content_gap tab p hc, behindCode_snd,
        ih (List.not_mem_of_not_mem_cons h)]
  | case3 p c cs hc s text ih =>
      have hcs : '\n' ∉ cs := List.not_mem_of_not_mem_cons h
      rw [Lexer.content_token tab p (by simpa using hc), depthBehind_cons]
      by_cases hcomplete : Lexer.IsComplete c cs
      · rw [readCode_token hcomplete p, behindCode_snd,
          ih fun hn => hcs (List.mem_of_mem_drop hn)]
      · obtain ⟨hread, hdepth⟩ := readCode_not_isComplete hcomplete hcs depth
        rw [hread, depthAfter_shape, hdepth, Lexer.extent_of_not_isComplete hcomplete hcs,
          List.drop_length, Lexer.content_nil, depthBehind_nil]

/-- Reading goes over a line of whole tokens when a blank follows it. -/
theorem readCode_append {cs : List Char} {d : Char} (hd : Lexer.isGap d = true) {tab : Nat}
    {p : Position} (h : ∀ t ∈ Lexer.content tab p cs, t.IsWhole) (ds : List Char) (depth : Nat) :
    readCode none depth (cs ++ d :: ds) =
      behindCode (readCode none depth cs).1 (readCode none (readCode none depth cs).2 (d :: ds)) := by
  fun_induction Lexer.scan tab p cs generalizing depth with
  | case1 p => rfl
  | case2 p c cs hc ih =>
      rw [Lexer.content_gap tab p hc] at h
      rw [List.cons_append, readCode_gap hc, readCode_gap hc, ih h, ← behindCode_append]
      rfl
  | case3 p c cs hc s text ih =>
      rw [Lexer.content_token tab p (by simpa using hc)] at h
      have hcomplete := Lexer.isComplete_iff.2 (h _ List.mem_cons_self)
      have hshape := Lexer.shape_append_gap hd hcomplete ds
      have hlen := Lexer.extent_le c cs
      rw [List.cons_append, readCode_token hcomplete p,
        readCode_token (hcomplete.append_gap hd ds) p, hshape,
        List.take_append_of_le_length hlen, List.drop_append_of_le_length hlen,
        ih (fun t ht => h t (List.mem_cons_of_mem _ ht)), ← behindCode_append]
      rfl

end ChartLint
