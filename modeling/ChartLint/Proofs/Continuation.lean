import ChartLint.Proofs.LayoutRun
import ChartLint.Proofs.LineBack
import ChartLint.Proofs.LineFront
import ChartLint.Proofs.OutlineLines

/-!
# What continues a statement

Two parts of the linter decide what continues a statement.  The layout looks at the characters of
lines: at the line itself and at the last line with code before it.  The outline looks at tokens: at
the first token of the line and at the statement read so far.

*Agreement.*  Inside brackets both call every line a continuation.  Outside brackets they look at the
same two places, the front of the line and the end of the code before it, and see the same there,
unless a token is hidden from the layout (`PlainSeam`).  Then they part in one case only: the line
starts with an operator, and of the line before and the statement being read just one starts with a
word that opens a block (`HeaderConflict`).

*Disagreement.*  The layout asks whether the line before opens a block and the outline whether the
statement does.  So a header over two lines keeps the layout from seeing the block, and a block word
that starts a later line of a statement makes it see one.
-/

namespace ChartLint

/-! ## The two views of a line -/

/-- Does the layout treat the line as a continuation?  Then some width of the indentation makes it a
finding. -/
def Layout.IsContinuation (s : Settings) (source : String) (n : Nat) : Prop :=
  ∃ k, ∃ d ∈ check { s with continuationIndent := k } (Text.lines source),
    d.category = .badIndentation ∧ d.position.line = n

/-- The blanks in front of a line. -/
def leadingBlanks (source : String) (n : Nat) : List Char :=
  ((Text.splitAt '\n' source.toList).getD (n - 1) []).takeWhile Lexer.isGap

/-- Is the token a word that opens a block? -/
def Token.opensBlock (t : Token) : Bool :=
  t.isIdentifier && Vocabulary.blockOpeners.contains t.text

/-- A token that is the same for both views at the end of a line.  It is not made of blanks, which the
layout trims, and it is no string that runs to the end of the line.  If another token touches it, it
does not go on the other's word or make an arrow with it. -/
structure Token.PlainEnd (tokens : List Token) (tab : Nat) (p : Token) : Prop where
  /-- The token is not trimmed. -/
  visible : p.isBlank = false
  /-- The token is no open string. -/
  closed : p.kind = .stringLiteral → p.isTerminated = true
  /-- The token does not run into the one in front of it. -/
  apart : ∀ u ∈ tokens, u.position.advance tab u.text.toList = p.position →
    (p.isWord = true → u.text.toList.getLast?.any Text.isWordChar = false) ∧
    (p.text = ">" → u.text.toList.getLast? ≠ some '=')

/-- The code on both sides of the start of line `n` is the same for both views.  `q` is the first code
token of the line. -/
structure PlainSeam (source : String) (tab n : Nat) (q : Token) : Prop where
  /-- The first characters of a compound assignment are another operator. -/
  simple : q.isCompoundAssignment = false
  /-- The layout sees the last token before the line. -/
  back : ∀ p ∈ (Outline.ofSource source tab).lastBefore? n, p.PlainEnd (tokenize source tab) tab
  /-- An operator at the front is not hidden by a carriage return, nor is the word that the line
  before starts with. -/
  front : q.leadsContinuation = true → '\r' ∉ leadingBlanks source n ∧
    ∀ p ∈ (Outline.ofSource source tab).lastBefore? n, '\r' ∉ leadingBlanks source p.position.line

/-- The line starts with an operator where the statement may end, and of the line before it and the
statement being read just one starts with a word that opens a block. -/
def Outline.HeaderConflict (o : Outline) (n : Nat) (q : Token) : Prop :=
  o.depthBefore n = 0 ∧ q.leadsContinuation = true ∧
    ∃ p ∈ o.lastBefore? n, p.asksForMore = false ∧ p.isOperator "=>" = false ∧
      ∃ st ∈ o.statementBefore? n, ∃ head ∈ (o.codeOn p.position.line).head?,
        head.opensBlock ≠ st.first.opensBlock

/-- The layout treats the line as a continuation just if no statement starts with its first code
token. -/
def ViewsAgree (s : Settings) (source : String) (n : Nat) : Prop :=
  ∀ q ∈ ((Outline.ofSource source s.tabWidth).codeOn n).head?,
    (Layout.IsContinuation s source n ↔ (Outline.ofSource source s.tabWidth).starts q = false)

instance (tokens : List Token) (tab : Nat) (p : Token) : Decidable (p.PlainEnd tokens tab) :=
  decidable_of_iff (p.isBlank = false ∧ (p.kind = .stringLiteral → p.isTerminated = true) ∧
      ∀ u ∈ tokens, u.position.advance tab u.text.toList = p.position →
        (p.isWord = true → u.text.toList.getLast?.any Text.isWordChar = false) ∧
        (p.text = ">" → u.text.toList.getLast? ≠ some '='))
    ⟨fun ⟨hvisible, hclosed, hapart⟩ => ⟨hvisible, hclosed, hapart⟩,
      fun h => ⟨h.visible, h.closed, h.apart⟩⟩

instance (source : String) (tab n : Nat) (q : Token) : Decidable (PlainSeam source tab n q) :=
  decidable_of_iff (q.isCompoundAssignment = false ∧
      (∀ p ∈ (Outline.ofSource source tab).lastBefore? n, p.PlainEnd (tokenize source tab) tab) ∧
      (q.leadsContinuation = true → '\r' ∉ leadingBlanks source n ∧
        ∀ p ∈ (Outline.ofSource source tab).lastBefore? n,
          '\r' ∉ leadingBlanks source p.position.line))
    ⟨fun ⟨hsimple, hback, hfront⟩ => ⟨hsimple, hback, hfront⟩,
      fun h => ⟨h.simple, h.back, h.front⟩⟩

instance (o : Outline) (n : Nat) (q : Token) : Decidable (o.HeaderConflict n q) :=
  inferInstanceAs (Decidable (o.depthBefore n = 0 ∧ q.leadsContinuation = true ∧
    ∃ p ∈ o.lastBefore? n, p.asksForMore = false ∧ p.isOperator "=>" = false ∧
      ∃ st ∈ o.statementBefore? n, ∃ head ∈ (o.codeOn p.position.line).head?,
        head.opensBlock ≠ st.first.opensBlock))

/-! ## The view of the outline -/

/-- Lines that are ended by line feeds end with the token of one. -/
theorem exists_concat_of_scanEnded {ts : List Lexeme} {tab number : Nat} {ls : List (List Char)}
    (h : ts.map (·.toToken) = Lexer.scanEnded tab number ls) (hts : ts ≠ []) :
    ∃ init e, ts = init ++ [e] ∧ e.kind = .newline := by
  have hsplit := List.dropLast_concat_getLast hts
  refine ⟨_, _, hsplit.symm, ?_⟩
  rw [← hsplit, List.map_append, List.map_singleton] at h
  rcases List.eq_nil_or_concat ls with rfl | ⟨ls, line, rfl⟩
  · simp [Lexer.scanEnded] at h
  · rw [List.concat_eq_append, Lexer.scanEnded_append, Lexer.scanEnded, Lexer.scanEnded,
      ← List.append_assoc] at h
    rw [(List.cons.inj (List.append_inj' h rfl).2).1]
    rfl

namespace Outline

variable {source : String} {tab n : Nat} {front mid back : List Lexeme} {q : Lexeme}

/-- With no code before it, a line starts a statement. -/
theorem starts_of_lastBefore?_none (h : LineSplit (ofSource source tab) n front (q :: mid) back)
    (hq : q.isCode = true) (hp : (ofSource source tab).lastBefore? n = none) :
    (ofSource source tab).starts q = true := by
  obtain ⟨hlast, -, -⟩ := Statement.tracks_run front
  rw [lastBefore?, h.before_eq] at hp
  rw [hp, Option.map_eq_none_iff] at hlast
  rw [starts_eq_startsAt h, hlast, Statement.startsAt, hq]
  rfl

/-- Behind other code a line starts a statement if the statement being read may end there. -/
theorem starts_of_lastBefore?_some (h : LineSplit (ofSource source tab) n front (q :: mid) back)
    {ls : List (List Char)} (hfront : front.map (·.toToken) = Lexer.scanEnded tab 1 ls)
    (hq : q.isCode = true) {p : Lexeme} (hp : (ofSource source tab).lastBefore? n = some p) :
    ∃ st, (ofSource source tab).statementBefore? n = some st ∧
      (ofSource source tab).starts q = ((ofSource source tab).depthBefore n == 0 &&
        !p.asksForMore && (p.isOperator "=>" || st.first.opensBlock || !q.leadsContinuation)) := by
  obtain ⟨hlast, hfirst, hdepth⟩ := Statement.tracks_run front
  rw [lastBefore?, h.before_eq] at hp
  obtain ⟨x, hx, rfl⟩ := Option.map_eq_some_iff.1 (hlast.trans hp)
  rw [hx, ← first_statementBefore? h] at hfirst
  obtain ⟨st, hst, hstfirst⟩ := Option.map_eq_some_iff.1 hfirst.symm
  have hbroken : x.broken = true := by
    obtain ⟨init, e, rfl, he⟩ := exists_concat_of_scanEnded hfront (by
      rintro rfl
      simp at hx)
    exact Statement.broken_run he hx
  refine ⟨st, hst, ?_⟩
  rw [starts_eq_startsAt h, hx, Statement.startsAt, hq, Option.all_some, hbroken, Bool.true_and,
    Bool.true_and, Statement.Progress.endsBefore, Statement.Progress.opensBlock, depthBefore,
    h.before_eq, ← hdepth, hx, hstfirst]
  rfl

end Outline

/-! ## The view of the layout -/

/-- A token that is no code ends its line. -/
theorem content_of_not_isCode {tab : Nat} {p : Position} {cs : List Char} (hn : '\n' ∉ cs)
    {t : Token} {back : List Token} (h : Lexer.content tab p cs = t :: back)
    (ht : t.isCode = false) : back = [] := by
  induction cs generalizing p with
  | nil => simp at h
  | cons c cs ih =>
      have hcs : '\n' ∉ cs := List.not_mem_of_not_mem_cons hn
      cases hc : Lexer.isGap c with
      | true =>
          rw [Lexer.content_gap tab p hc] at h
          exact ih hcs h
      | false =>
          rw [Lexer.content_token tab p hc] at h
          obtain ⟨rfl, rfl⟩ := List.cons.inj h
          have hkind := comment_of_not_isCode (List.ne_of_not_mem_cons hn).symm ht
          rw [Lexer.extent_of_not_isComplete (fun hcomplete => hcomplete.1 hkind) hcs,
            List.drop_length, Lexer.content_nil]

/-- The first code token of a line is its first token. -/
theorem exists_cons_of_head? {tab : Nat} {p : Position} {line : List Char} (hn : '\n' ∉ line)
    {mid : List Lexeme} (hmid : mid.map (·.toToken) = Lexer.content tab p line) {q : Lexeme}
    (hq : (mid.filter (·.isCode)).head? = some q) :
    ∃ rest, mid = q :: rest ∧ q.isCode = true := by
  have hcode : q.isCode = true := (List.mem_filter.1 (List.mem_of_mem_head? hq)).2
  cases mid with
  | nil => simp at hq
  | cons t rest =>
      refine ⟨rest, ?_, hcode⟩
      cases ht : t.isCode with
      | true =>
          rw [List.filter_cons, if_pos ht, List.head?_cons, Option.some.injEq] at hq
          rw [hq]
      | false =>
          have hrest := content_of_not_isCode hn hmid.symm ht
          rw [List.map_eq_nil_iff] at hrest
          rw [hrest, List.filter_cons, if_neg (by simp [ht])] at hq
          cases hq

theorem exists_head?_of_mem_content {tab : Nat} {p : Position} {line : List Char}
    {mid : List Lexeme} (hmid : mid.map (·.toToken) = Lexer.content tab p line) {t : Token}
    (ht : t ∈ Lexer.content tab p line) (hcode : t.isCode = true) :
    ∃ head, (mid.filter (·.isCode)).head? = some head := by
  rw [← hmid, List.mem_map] at ht
  obtain ⟨u, hu, rfl⟩ := ht
  exact ⟨_, List.head?_eq_some_head (List.ne_nil_of_mem (List.mem_filter.2 ⟨hu, hcode⟩))⟩

namespace Layout

theorem isContinuation_iff (s : Settings) (source : String) (n : Nat) :
    IsContinuation s source n ↔
      n ∈ (Reading.mk 0 none).continued 1 (Text.splitAt '\n' source.toList) := by
  rw [← Reading.exists_finding_iff s ⟨0, none⟩ 0 1]
  simp only [IsContinuation, check_lines]

instance (s : Settings) (source : String) (n : Nat) : Decidable (IsContinuation s source n) :=
  decidable_of_iff _ (isContinuation_iff s source n).symm

/-- Without a line with code no bracket is open. -/
theorem Reading.depth_of_previous {r : Reading} (h : r.previous = none → r.depth = 0)
    (number : Nat) (ls : List (List Char)) :
    (r.run number ls).previous = none → (r.run number ls).depth = 0 := by
  induction ls generalizing r number with
  | nil => exact h
  | cons line rest ih =>
      refine ih ?_ (number + 1)
      rw [Reading.read]
      split
      · exact h
      · intro hnone
        cases hnone

end Layout

/-- Both views see the same at the end of the line before. -/
theorem endAlike_of_plainEnd {source : String} {tab : Nat} {before after : List (List Char)}
    {line : List Char} (hsplit : Text.splitAt '\n' source.toList = before ++ line :: after)
    {front back : List Token} {t : Token}
    (hcontent : Lexer.content tab ⟨1 + before.length, 1⟩ line = front ++ t :: back)
    (hback : ∀ u ∈ back, u.isCode = false) (ht : t.isCode = true)
    (hplain : t.PlainEnd (tokenize source tab) tab) (depth : Nat) :
    EndAlike (.ofLine depth line) t := by
  have hn : '\n' ∉ line := (Text.not_mem_of_splitAt_eq hsplit).2.1
  obtain ⟨pre, hcode, htouch⟩ :=
    exists_code_last hn hcontent hback ht hplain.visible hplain.closed depth
  obtain ⟨c, ds, -, hkind, htext⟩ := Lexer.exists_shape_of_mem_content
    (show t ∈ Lexer.content tab ⟨1 + before.length, 1⟩ line by rw [hcontent]; simp)
  have happart {c : Char} (hc : pre.getLast? = some c) (hgap : Lexer.isGap c = false) :
      (t.isWord = true → Text.isWordChar c = false) ∧ (t.text = ">" → c ≠ '=') := by
    rcases htouch c hc with h | ⟨u, hu, hlast, htouches⟩
    · rw [h] at hgap
      cases hgap
    · have hmem : u ∈ Lexer.content tab ⟨1 + before.length, 1⟩ line := by
        rw [hcontent]
        exact List.mem_append_left _ hu
      have hapart := hplain.apart u (mem_tokenize_of_mem_line hsplit hmem).1 htouches
      rw [hlast] at hapart
      simpa using hapart
  refine endAlike_last hcode hkind htext ht hplain.closed ?_ ?_
  · intro hword
    cases hpre : pre.getLast? with
    | none => rfl
    | some c =>
        rw [Option.any_some]
        cases hgap : Lexer.isGap c with
        | true => exact Lexer.IsBoundary.not_wordChar (Or.inr hgap)
        | false => exact (happart hpre hgap).1 hword
  · intro harrow hpre
    exact (happart hpre (by decide)).2 harrow rfl

/-- With no carriage return in front, both views see the same word at the front of a line. -/
theorem opensBlock_of_content {tab : Nat} {p : Position} {line : List Char} {t : Token}
    {back : List Token} (hcontent : Lexer.content tab p line = t :: back) (ht : t.isCode = true)
    (hreturn : '\r' ∉ line.takeWhile Lexer.isGap) {depth : Nat}
    (hexempt : (LineShape.ofLine depth line).isExempt = false) :
    (LineShape.ofLine depth line).opensBlock =
      ((LineShape.ofLine depth line).trailing? == some "=>" || t.opensBlock) := by
  obtain ⟨c, ds, w, hstart⟩ := exists_code_first hcontent ht hreturn hexempt
  rw [LineShape.opensBlock, hstart.opensBlock_first]
  rfl

/-- A line leads a continuation for the layout if its first token does, unless that is a compound
assignment or stands behind a carriage return. -/
theorem leadsContinuation_of_content {tab : Nat} {p : Position} {line : List Char} {t : Token}
    {back : List Token} (hcontent : Lexer.content tab p line = t :: back) (ht : t.isCode = true)
    (hassign : t.isCompoundAssignment = false)
    (hreturn : t.leadsContinuation = true → '\r' ∉ line.takeWhile Lexer.isGap) {depth : Nat}
    (hexempt : (LineShape.ofLine depth line).isExempt = false) :
    (LineShape.ofLine depth line).leadsContinuation = t.leadsContinuation := by
  by_cases hfront : '\r' ∈ line.takeWhile Lexer.isGap
  · rw [leadsContinuation_return hfront]
    cases ht : t.leadsContinuation with
    | false => rfl
    | true => exact absurd hfront (hreturn ht)
  · obtain ⟨c, ds, w, hstart⟩ := exists_code_first hcontent ht hfront hexempt
    exact hstart.leadsContinuation_first ht hassign

theorem leadingBlanks_eq {source : String} {before after : List (List Char)} {line : List Char}
    (h : Text.splitAt '\n' source.toList = before ++ line :: after) :
    leadingBlanks source (1 + before.length) = line.takeWhile Lexer.isGap := by
  rw [leadingBlanks, h, Nat.add_sub_cancel_left]
  simp

/-! ## The two views together -/

section Views

variable {source : String} {tab : Nat} {before after : List (List Char)} {line : List Char}
  {front mid back : List Lexeme} {q : Lexeme}

/-- With no code before it, a line continues nothing. -/
theorem continuesAt_of_lastBefore?_none
    (hsplit : Text.splitAt '\n' source.toList = before ++ line :: after)
    (h : Outline.LineSplit (.ofSource source tab) (1 + before.length) front mid back)
    (hfront : front.map (·.toToken) = Lexer.scanEnded tab 1 before)
    (hp : (Outline.ofSource source tab).lastBefore? (1 + before.length) = none) :
    ((Layout.Reading.mk 0 none).run 1 before).continuesAt line = false := by
  rw [Outline.lastBefore?, h.before_eq, Statement.lastCode?, List.getLast?_eq_none_iff,
    List.filter_eq_nil_iff] at hp
  have hsilent : ∀ t ∈ Lexer.scanEnded tab 1 before, t.isCode = false := by
    intro t ht
    rw [← hfront, List.mem_map] at ht
    obtain ⟨u, hu, rfl⟩ := ht
    simpa using hp u hu
  have hn : ∀ l ∈ before, '\n' ∉ l := (Text.not_mem_of_splitAt_eq hsplit).1
  rw [Layout.Reading.run_silent _ _ hn hsilent, Layout.Reading.continuesAt]
  exact Bool.and_false _

/-- Inside brackets every line with code is a continuation. -/
theorem continuesAt_of_depthBefore
    (hsplit : Text.splitAt '\n' source.toList = before ++ line :: after)
    (h : Outline.LineSplit (.ofSource source tab) (1 + before.length) front mid back)
    (hfront : front.map (·.toToken) = Lexer.scanEnded tab 1 before)
    (hexempt : ∀ depth, (LineShape.ofLine depth line).isExempt = false)
    (hdepth : (Outline.ofSource source tab).depthBefore (1 + before.length) ≠ 0) :
    ((Layout.Reading.mk 0 none).run 1 before).continuesAt line = true := by
  have hn : ∀ l ∈ before, '\n' ∉ l := (Text.not_mem_of_splitAt_eq hsplit).1
  rw [Outline.depthBefore, h.before_eq, hfront] at hdepth
  rw [← Layout.Reading.depth_run ⟨0, none⟩ 1 hn tab] at hdepth
  cases hprevious : ((Layout.Reading.mk 0 none).run 1 before).previous with
  | none =>
      have hzero := Layout.Reading.depth_of_previous (r := ⟨0, none⟩) (fun _ => rfl) 1 before
      exact absurd (hzero hprevious) hdepth
  | some p =>
      rw [Layout.Reading.continuesAt, Layout.Reading.shape, hexempt, hprevious, Layout.continues]
      simp [hdepth]

/-- The last line with code is the line of the last code token.  Its first code token is the first
token of the line, and its end is seen alike. -/
theorem exists_previous_line (hsplit : Text.splitAt '\n' source.toList = before ++ line :: after)
    (h : Outline.LineSplit (.ofSource source tab) (1 + before.length) front mid back)
    (hfront : front.map (·.toToken) = Lexer.scanEnded tab 1 before) {p : Lexeme}
    (hp : (Outline.ofSource source tab).lastBefore? (1 + before.length) = some p)
    (hplain : p.PlainEnd (tokenize source tab) tab) :
    ∃ line' depth head rest,
      ((Layout.Reading.mk 0 none).run 1 before).previous =
        some ⟨p.position.line, .ofLine depth line'⟩ ∧
      leadingBlanks source p.position.line = line'.takeWhile Lexer.isGap ∧
      ((Outline.ofSource source tab).codeOn p.position.line).head? = some head ∧
      Lexer.content tab ⟨p.position.line, 1⟩ line' = head.toToken :: rest ∧ head.isCode = true ∧
      (LineShape.ofLine depth line').isExempt = false ∧ EndAlike (.ofLine depth line') p.toToken := by
  have hlast : ((Lexer.scanEnded tab 1 before).filter (·.isCode)).getLast? = some p.toToken := by
    rw [Outline.lastBefore?, h.before_eq, Statement.lastCode?] at hp
    rw [← hfront, List.filter_map, List.getLast?_map]
    exact congrArg (Option.map (·.toToken)) hp
  have hpcode : p.isCode = true := (List.mem_filter.1 (List.mem_of_getLast? hlast)).2
  obtain ⟨before', line', after', depth, front', back', rfl, hcontent, hback', hprevious⟩ :=
    Layout.Reading.previous_run ⟨0, none⟩ 1 (Text.not_mem_of_splitAt_eq hsplit).1 hlast hplain.visible
  rw [List.append_assoc, List.cons_append] at hsplit
  have hn : '\n' ∉ line' := (Text.not_mem_of_splitAt_eq hsplit).2.1
  have hpmem : p.toToken ∈ Lexer.content tab ⟨1 + before'.length, 1⟩ line' := by
    rw [hcontent]
    simp
  have hpline : p.position.line = 1 + before'.length := Lexer.line_of_mem_content hn hpmem
  obtain ⟨front₁, mid₁, back₁, h₁, -, hmid⟩ := Outline.exists_lineSplit tab hsplit
  obtain ⟨head, hhead⟩ := exists_head?_of_mem_content hmid hpmem hpcode
  obtain ⟨rest, rfl, hheadCode⟩ := exists_cons_of_head? hn hmid hhead
  rw [hpline]
  exact ⟨line', depth, head, _, hprevious, leadingBlanks_eq hsplit, by rw [h₁.codeOn_eq, hhead],
    hmid.symm, hheadCode, isExempt_eq_false hn hpmem hpcode hplain.visible depth,
    endAlike_of_plainEnd hsplit hcontent hback' hpcode hplain depth⟩

/-- Outside brackets a line continues the code before it if that asks for more, or if the line leads
a continuation and the line before opens no block. -/
theorem continuesAt_of_lastBefore?_some
    (hsplit : Text.splitAt '\n' source.toList = before ++ line :: after)
    (h : Outline.LineSplit (.ofSource source tab) (1 + before.length) front (q :: mid) back)
    (hfront : front.map (·.toToken) = Lexer.scanEnded tab 1 before)
    (hmid : (q :: mid).map (·.toToken) = Lexer.content tab ⟨1 + before.length, 1⟩ line)
    (hq : q.isCode = true) (hexempt : ∀ depth, (LineShape.ofLine depth line).isExempt = false)
    (hseam : PlainSeam source tab (1 + before.length) q.toToken)
    (hdepth : (Outline.ofSource source tab).depthBefore (1 + before.length) = 0) {p : Lexeme}
    (hp : (Outline.ofSource source tab).lastBefore? (1 + before.length) = some p) :
    ∃ head, ((Outline.ofSource source tab).codeOn p.position.line).head? = some head ∧
      ((Layout.Reading.mk 0 none).run 1 before).continuesAt line =
        (p.asksForMore || (q.leadsContinuation && !(p.isOperator "=>" || head.opensBlock))) := by
  have hn : ∀ l ∈ before, '\n' ∉ l := (Text.not_mem_of_splitAt_eq hsplit).1
  rw [Outline.depthBefore, h.before_eq, hfront,
    ← Layout.Reading.depth_run ⟨0, none⟩ 1 hn tab] at hdepth
  obtain ⟨line', depth, head, rest, hprevious, hblanks, hhead, hcontent, hheadCode, hexempt',
    harrow, hasks⟩ := exists_previous_line hsplit h hfront hp (hseam.back p hp)
  refine ⟨head, hhead, ?_⟩
  have hleads : ∀ depth, (LineShape.ofLine depth line).leadsContinuation =
      q.leadsContinuation := by
    intro depth
    refine leadsContinuation_of_content hmid.symm hq hseam.simple ?_ (hexempt depth)
    intro hq
    have hreturn := (hseam.front hq).1
    rwa [leadingBlanks_eq hsplit] at hreturn
  rw [Layout.Reading.continuesAt, Layout.Reading.shape, hexempt, hprevious, hdepth,
    Layout.continues, Option.any_some, hleads, hasks]
  cases hq : q.leadsContinuation with
  | false => simp
  | true =>
      have hreturn := (hseam.front hq).2 p hp
      rw [hblanks] at hreturn
      rw [opensBlock_of_content hcontent hheadCode hreturn hexempt', Bool.eq_iff_iff.2
        (beq_iff_eq.trans harrow)]
      rfl

end Views

/-- A line with code that is not made of blanks is left out of account at no depth. -/
theorem isExempt_of_visible {tab : Nat} {p : Position} {line : List Char} (hn : '\n' ∉ line)
    {mid : List Lexeme} (hmid : mid.map (·.toToken) = Lexer.content tab p line)
    (h : ∃ t ∈ mid.filter (·.isCode), t.isBlank = false) (depth : Nat) :
    (LineShape.ofLine depth line).isExempt = false := by
  obtain ⟨t, ht, hblank⟩ := h
  obtain ⟨hmem, hcode⟩ := List.mem_filter.1 ht
  have hcontent : t.toToken ∈ Lexer.content tab p line := by
    rw [← hmid]
    exact List.mem_map_of_mem hmem
  exact isExempt_eq_false hn hcontent hcode hblank depth

/-- The layout and the outline agree on what continues a statement, but for the conflict of headers.
Take a line with a code token that is not made of blanks, and let `q` be its first code token.  Inside
brackets, or if both views see the same at the start of the line, the layout treats the line as a
continuation just if no statement starts with `q`, unless the line before and the statement being
read conflict about the block they open; then it is the other way round. -/
theorem viewsAgree_iff_not_headerConflict (s : Settings) (source : String) (n : Nat) (q : Lexeme)
    (hq : ((Outline.ofSource source s.tabWidth).codeOn n).head? = some q)
    (hvisible : ∃ t ∈ (Outline.ofSource source s.tabWidth).codeOn n, t.isBlank = false)
    (hseam : (Outline.ofSource source s.tabWidth).depthBefore n = 0 →
      PlainSeam source s.tabWidth n q.toToken) :
    ViewsAgree s source n ↔
      ¬ (Outline.ofSource source s.tabWidth).HeaderConflict n q.toToken := by
  simp only [ViewsAgree, hq, Option.mem_def, Option.some.injEq, forall_eq']
  have hqmem := List.mem_filter.1 (List.mem_of_mem_head? hq)
  have hqline : q.position.line = n := by
    have := hqmem.2
    simp only [Bool.and_eq_true, beq_iff_eq] at this
    exact this.2
  obtain ⟨before, line, after, hsplit, hnumber⟩ := Outline.exists_line hqmem.1
  obtain rfl : n = 1 + before.length := hqline.symm.trans hnumber
  have hn : '\n' ∉ line := (Text.not_mem_of_splitAt_eq hsplit).2.1
  obtain ⟨front, mid, back, h, hfront, hmid⟩ := Outline.exists_lineSplit s.tabWidth hsplit
  rw [h.codeOn_eq] at hq hvisible
  have hexempt := isExempt_of_visible hn hmid hvisible
  obtain ⟨mid, rfl, hqcode⟩ := exists_cons_of_head? hn hmid hq
  rw [Layout.isContinuation_iff, hsplit, Layout.Reading.mem_continued_iff]
  cases hp : (Outline.ofSource source s.tabWidth).lastBefore? (1 + before.length) with
  | none =>
      rw [continuesAt_of_lastBefore?_none hsplit h hfront hp,
        Outline.starts_of_lastBefore?_none h hqcode hp]
      simp [Outline.HeaderConflict, hp]
  | some p =>
      obtain ⟨st, hst, hstarts⟩ := Outline.starts_of_lastBefore?_some h hfront hqcode hp
      by_cases hdepth : (Outline.ofSource source s.tabWidth).depthBefore (1 + before.length) = 0
      · obtain ⟨head, hhead, hcontinues⟩ := continuesAt_of_lastBefore?_some hsplit h hfront hmid hqcode
          hexempt (hseam hdepth) hdepth hp
        rw [hcontinues, hstarts, Outline.HeaderConflict, hdepth, hp, hst]
        simp only [Option.mem_def, Option.some.injEq, exists_eq_left', hhead]
        -- Both views are now functions of the same five answers.
        cases p.asksForMore <;> cases q.leadsContinuation <;> cases p.isOperator "=>" <;>
          cases head.opensBlock <;> cases st.first.opensBlock <;> simp
      · rw [continuesAt_of_depthBefore hsplit h hfront hexempt hdepth, hstarts]
        simp [Outline.HeaderConflict, hdepth]

/-- A continuation behind a closed bracket, with an operator in a comment and a comma in a string. -/
theorem viewsAgree_behind_brackets :
    ViewsAgree {} "x = f(a, // and\n  \"b,\")\n  + c" 3 :=
  (viewsAgree_iff_not_headerConflict {} "x = f(a, // and\n  \"b,\")\n  + c" 3
    ⟨⟨.operator, "+", ⟨3, 3⟩⟩, 11⟩ (by decide +kernel) (by decide +kernel)
    (fun _ => by decide +kernel)).2 (by decide +kernel)

instance (s : Settings) (source : String) (n : Nat) : Decidable (ViewsAgree s source n) :=
  inferInstanceAs (Decidable (∀ q ∈ ((Outline.ofSource source s.tabWidth).codeOn n).head?,
    (Layout.IsContinuation s source n ↔
      (Outline.ofSource source s.tabWidth).starts q = false)))

/-- The two views part at a header over two lines and at a header inside a statement; and they part
wherever the layout does not see a token as the lexer does: blanks that are tokens, alone on a line or
at its end, a string that nothing closes, tokens that touch, a compound assignment, and a carriage
return in front of a line. -/
theorem not_viewsAgree :
    ¬ ViewsAgree {} "if (a\n  b)\n- c" 3 ∧ ¬ ViewsAgree {} "x =\n  if a\n    - b" 3 ∧
    ¬ ViewsAgree {} "(\n\x0c\n)" 2 ∧ ¬ ViewsAgree {} "a +\x0c\nb" 2 ∧
    ¬ ViewsAgree {} "s = \"a,\nb" 2 ∧
    ¬ ViewsAgree {} "1and\nb" 2 ∧ ¬ ViewsAgree {} "x = #and\nb" 2 ∧ ¬ ViewsAgree {} "a ==>\nb" 2 ∧
    ¬ ViewsAgree {} "x\n+= 1" 2 ∧
    ¬ ViewsAgree {} "a\n\r- b" 2 ∧ ¬ ViewsAgree {} "\rif a\n- b" 2 := by
  decide +kernel

end ChartLint
