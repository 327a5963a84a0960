import ChartLint.Proofs.OutlineLines
import ChartLint.Proofs.StatementPass

/-!
# Statements partition the code

Every code token of a script stands in exactly one statement, and the statements follow each other
in the order of their tokens.  Where one statement ends and the next one starts is told by two code
tokens that follow each other and by whether a line ends between them (`EndsBetween`).

*Cutting.*  Behind a code token the statements are those that are closed, and those that are resumed
with the statement that ends in the token so far (`exists_segment_append`).  What is closed does not
depend on the tokens ahead.
-/

namespace ChartLint

/-! ## The numbers of tokens -/

theorem pairwise_index_numberFrom (start : Nat) (tokens : List Token) :
    (numberFrom start tokens).Pairwise (·.index < ·.index) := by
  have h : ((numberFrom start tokens).map (·.index)).Pairwise (· < ·) := by
    rw [map_index_numberFrom]
    exact List.pairwise_lt_range'
  exact List.pairwise_map.1 h

/-- A token stands at the place of its number. -/
theorem getElem?_index {tokens : List Token} {t : Lexeme} (h : t ∈ numberTokens tokens) :
    (numberTokens tokens)[t.index]? = some t := by
  obtain ⟨⟨u, i⟩, hmem, rfl⟩ := List.mem_map.1 h
  have hu : tokens[i]? = some u := List.mem_zipIdx_iff_getElem?.1 hmem
  simp [numberTokens, List.getElem?_zipIdx, hu]

/-- The numbers of the tokens that satisfy a condition, counted through. -/
theorem map_index_filter (tokens : List Token) (p : Lexeme → Bool) :
    ((numberTokens tokens).filter p).map (·.index) =
      (List.range tokens.length).filter fun i => (numberTokens tokens)[i]?.any p := by
  have hrange : List.range tokens.length = (numberTokens tokens).map (·.index) := by
    rw [List.range_eq_range']
    exact (map_index_numberFrom 0 tokens).symm
  rw [hrange, List.filter_map]
  refine congrArg _ (List.filter_congr fun t ht => ?_)
  rw [Function.comp_apply, getElem?_index ht, Option.any_some]

theorem Token.isCode_of_silent {t : Token} (h : t.kind = .comment ∨ t.kind = .newline) :
    t.isCode = false := by
  rcases h with h | h <;> simp [isCode, h]

namespace Statement

/-! ## All code and nothing else -/

theorem flatMap_tokens_resume (s : Statement) (broken : Bool) (ts : List Lexeme) :
    (resume s broken ts).flatMap tokens = s.tokens ++ ts.filter (·.isCode) := by
  induction ts generalizing s broken with
  | nil => simp [resume_nil]
  | cons t ts ih =>
      cases hcode : t.isCode with
      | false =>
          rw [resume_silent hcode, ih, List.filter_cons_of_neg (by simp [hcode])]
      | true =>
          rw [List.filter_cons_of_pos (by exact hcode)]
          cases hends : broken && s.progress.endsBefore t with
          | true =>
              rw [resume_ends hcode hends, List.flatMap_cons, ih]
              rfl
          | false =>
              rw [resume_goesOn hcode hends, ih, tokens_push, List.append_assoc]
              rfl

/-- The tokens of the statements, one statement behind the other, are the code tokens. -/
theorem flatMap_tokens_segment (ts : List Lexeme) :
    (segment ts).flatMap tokens = ts.filter (·.isCode) := by
  induction ts with
  | nil => rfl
  | cons t ts ih =>
      cases hcode : t.isCode with
      | false => rw [segment_silent hcode, ih, List.filter_cons_of_neg (by simp [hcode])]
      | true =>
          rw [segment_code hcode, flatMap_tokens_resume, List.filter_cons_of_pos (by exact hcode)]
          rfl

/-! ## Cutting behind a token -/

theorem exists_resume_append (s : Statement) (broken : Bool) (front : List Lexeme) {p : Lexeme}
    (hp : p.isCode = true) :
    ∃ closed current, current.last = p ∧
      ∀ back, resume s broken (front ++ p :: back) = closed ++ resume current false back := by
  induction front generalizing s broken with
  | nil =>
      cases hends : broken && s.progress.endsBefore p with
      | true => exact ⟨[s], ⟨p, []⟩, rfl, fun back => resume_ends hp hends back⟩
      | false => exact ⟨[], s.push p, last_push s p, fun back => resume_goesOn hp hends back⟩
  | cons t front ih =>
      cases hcode : t.isCode with
      | false =>
          obtain ⟨closed, current, hlast, hresume⟩ := ih s (broken || t.kind != .comment)
          refine ⟨closed, current, hlast, fun back => ?_⟩
          rw [List.cons_append, resume_silent hcode, hresume]
      | true =>
          cases hends : broken && s.progress.endsBefore t with
          | true =>
              obtain ⟨closed, current, hlast, hresume⟩ := ih ⟨t, []⟩ false
              refine ⟨s :: closed, current, hlast, fun back => ?_⟩
              rw [List.cons_append, resume_ends hcode hends, hresume, List.cons_append]
          | false =>
              obtain ⟨closed, current, hlast, hresume⟩ := ih (s.push t) false
              refine ⟨closed, current, hlast, fun back => ?_⟩
              rw [List.cons_append, resume_goesOn hcode hends, hresume]

/-- Behind a code token some statements are closed and one, which ends in the token so far, is
resumed with the tokens ahead. -/
theorem exists_segment_append (front : List Lexeme) {p : Lexeme} (hp : p.isCode = true) :
    ∃ closed current, current.last = p ∧
      ∀ back, segment (front ++ p :: back) = closed ++ resume current false back := by
  induction front with
  | nil => exact ⟨[], ⟨p, []⟩, rfl, fun back => segment_code hp back⟩
  | cons t front ih =>
      cases hcode : t.isCode with
      | false =>
          obtain ⟨closed, current, hlast, hsegment⟩ := ih
          refine ⟨closed, current, hlast, fun back => ?_⟩
          rw [List.cons_append, segment_silent hcode, hsegment]
      | true =>
          obtain ⟨closed, current, hlast, hresume⟩ := exists_resume_append ⟨t, []⟩ false front hp
          refine ⟨closed, current, hlast, fun back => ?_⟩
          rw [List.cons_append, segment_code hcode, hresume]

/-! ## Tokens that are no code -/

/-- Of tokens that are no code, only whether a line ends among them matters. -/
theorem resume_gap {gap : List Lexeme} (h : ∀ t ∈ gap, t.isCode = false) (s : Statement)
    (broken : Bool) (ts : List Lexeme) :
    resume s broken (gap ++ ts) = resume s (broken || gap.any (·.kind != .comment)) ts := by
  induction gap generalizing broken with
  | nil => rw [List.nil_append, List.any_nil, Bool.or_false]
  | cons t gap ih =>
      obtain ⟨ht, hgap⟩ := List.forall_mem_cons.1 h
      rw [List.cons_append, resume_silent ht, ih hgap, List.any_cons, Bool.or_assoc]

theorem segment_gap {gap : List Lexeme} (h : ∀ t ∈ gap, t.isCode = false) (ts : List Lexeme) :
    segment (gap ++ ts) = segment ts := by
  induction gap with
  | nil => rfl
  | cons t gap ih =>
      obtain ⟨ht, hgap⟩ := List.forall_mem_cons.1 h
      rw [List.cons_append, segment_silent ht, ih hgap]

theorem resume_gap_congr {gap other : List Lexeme} (hgap : ∀ t ∈ gap, t.isCode = false)
    (hother : ∀ t ∈ other, t.isCode = false)
    (h : gap.any (·.kind != .comment) = other.any (·.kind != .comment)) (s : Statement)
    (broken : Bool) (front back : List Lexeme) :
    resume s broken (front ++ (gap ++ back)) = resume s broken (front ++ (other ++ back)) := by
  induction front generalizing s broken with
  | nil => rw [List.nil_append, List.nil_append, resume_gap hgap, resume_gap hother, h]
  | cons t front ih =>
      rw [List.cons_append, List.cons_append]
      cases hcode : t.isCode with
      | false => rw [resume_silent hcode, resume_silent hcode, ih]
      | true =>
          cases hends : broken && s.progress.endsBefore t with
          | true => rw [resume_ends hcode hends, resume_ends hcode hends, ih]
          | false => rw [resume_goesOn hcode hends, resume_goesOn hcode hends, ih]

/-- Statements stay the same when tokens that are no code give way to others, as long as a line ends
among both or among neither. -/
theorem segment_gap_congr {gap other : List Lexeme} (hgap : ∀ t ∈ gap, t.isCode = false)
    (hother : ∀ t ∈ other, t.isCode = false)
    (h : gap.any (·.kind != .comment) = other.any (·.kind != .comment)) (front back : List Lexeme) :
    segment (front ++ (gap ++ back)) = segment (front ++ (other ++ back)) := by
  induction front with
  | nil => rw [List.nil_append, List.nil_append, segment_gap hgap, segment_gap hother]
  | cons t front ih =>
      rw [List.cons_append, List.cons_append]
      cases hcode : t.isCode with
      | false => rw [segment_silent hcode, segment_silent hcode, ih]
      | true =>
          rw [segment_code hcode, segment_code hcode, resume_gap_congr hgap hother h]

end Statement

/-! ## The statement of a token -/

namespace Outline

variable {ts : List Token}

theorem flatMap_tokens_statements (ts : List Token) :
    (ofTokens (numberTokens ts)).statements.flatMap (·.tokens) =
      (ofTokens (numberTokens ts)).tokens.filter (·.isCode) :=
  Statement.flatMap_tokens_segment _

theorem pairwise_index_statements (ts : List Token) :
    ((ofTokens (numberTokens ts)).statements.flatMap (·.tokens)).Pairwise (·.index < ·.index) := by
  rw [flatMap_tokens_statements]
  exact (pairwise_index_numberFrom 0 _).filter _

/-- A statement in front of another one has smaller numbers. -/
theorem index_lt_of_lt {n m : Nat} {s s' : Statement} (h : n < m)
    (hs : (ofTokens (numberTokens ts)).statements[n]? = some s)
    (hs' : (ofTokens (numberTokens ts)).statements[m]? = some s') {t u : Lexeme} (ht : t ∈ s.tokens)
    (hu : u ∈ s'.tokens) : t.index < u.index := by
  obtain ⟨hn, rfl⟩ := List.getElem?_eq_some_iff.1 hs
  obtain ⟨hm, rfl⟩ := List.getElem?_eq_some_iff.1 hs'
  have hpairwise := (List.pairwise_flatMap.1 (pairwise_index_statements ts)).2
  exact List.pairwise_iff_getElem.1 hpairwise n m hn hm h t ht u hu

/-- A number stands in one statement only. -/
theorem statement_unique {n m : Nat} {s s' : Statement}
    (hs : (ofTokens (numberTokens ts)).statements[n]? = some s)
    (hs' : (ofTokens (numberTokens ts)).statements[m]? = some s') {t u : Lexeme} (ht : t ∈ s.tokens)
    (hu : u ∈ s'.tokens) (h : t.index = u.index) : n = m := by
  rcases Nat.lt_trichotomy n m with hlt | heq | hlt
  · exact absurd h (Nat.ne_of_lt (index_lt_of_lt hlt hs hs' ht hu))
  · exact heq
  · exact absurd h (Nat.ne_of_gt (index_lt_of_lt hlt hs' hs hu ht))

theorem statementOf?_eq_some_iff {i n : Nat} :
    (ofTokens (numberTokens ts)).statementOf? i = some n ↔
      ∃ s, (ofTokens (numberTokens ts)).statements[n]? = some s ∧ ∃ t ∈ s.tokens, t.index = i := by
  have howns (s : Statement) : s.owns i = true ↔ ∃ t ∈ s.tokens, t.index = i := by
    simp [Statement.owns, List.any_eq_true]
  rw [statementOf?, List.findIdx?_eq_some_iff_getElem]
  constructor
  · rintro ⟨hn, hi, -⟩
    exact ⟨_, List.getElem?_eq_getElem hn, (howns _).1 hi⟩
  · rintro ⟨s, hs, hi⟩
    obtain ⟨hn, rfl⟩ := List.getElem?_eq_some_iff.1 hs
    refine ⟨hn, (howns _).2 hi, ?_⟩
    intro m hm hown
    obtain ⟨u, hu, hui⟩ := (howns _).1 hown
    obtain ⟨t, ht, hti⟩ := hi
    have hs' := List.getElem?_eq_getElem (Nat.lt_trans hm hn)
    have heq := statement_unique hs hs' ht hu (hti.trans hui.symm)
    exact absurd heq (Nat.ne_of_gt hm)

/-- The statement of a code token of a script, told by its place among the statements. -/
theorem statementOf?_of_mem {n : Nat} {s : Statement}
    (hs : (ofTokens (numberTokens ts)).statements[n]? = some s) {t : Lexeme} (ht : t ∈ s.tokens) :
    (ofTokens (numberTokens ts)).statementOf? t.index = some n :=
  statementOf?_eq_some_iff.2 ⟨s, hs, t, ht, rfl⟩

/-! ## Where statements end -/

/-- Statement `s` ends between its token `p` and the code token `q`, when `before` are the tokens of
`s` in front of `p` and `gap` is what stands between `p` and `q`. -/
structure EndsBetween (s : Statement) (before : List Lexeme) (p : Lexeme) (gap : List Lexeme)
    (q : Lexeme) : Prop where
  /-- A line ends in between. -/
  lineEnd : ∃ t ∈ gap, t.kind = .newline
  /-- No bracket of the statement is open. -/
  closed : depthBehind ((before ++ [p]).map (·.toToken)) 0 = 0
  /-- The token in front is no comma. -/
  notComma : p.isPunctuation "," = false
  /-- The token in front is no operator but an arrow. -/
  notOperator : p.kind = .operator → p.text = "=>"
  /-- The statement opens a block, or the token behind does not go on with it. -/
  separate : (p.isOperator "=>" = true ∨
      (s.first.isIdentifier = true ∧ s.first.text ∈ Vocabulary.blockOpeners)) ∨
    ¬ (q.kind = .operator ∧ q.text ∈ Vocabulary.leadingOperators)

/-- The end of a script is its last token. -/
theorem kind_ne_endOfInput (hts : EndsOnce ts) {front back : List Lexeme} {t : Lexeme}
    (h : (ofTokens (numberTokens ts)).tokens = front ++ t :: back) (hback : back ≠ []) :
    t.kind ≠ .endOfInput := by
  obtain ⟨body, last, hnumbers, -, -, hbody⟩ := hts.exists_numbered
  have hfront : front ++ t :: back.dropLast = body := by
    have htokens : front ++ t :: back = body ++ [last] := h.symm.trans hnumbers
    rw [← List.dropLast_append_getLast hback, ← List.cons_append, ← List.append_assoc] at htokens
    exact (List.append_inj' htokens rfl).1
  exact hbody t (hfront ▸ List.mem_append_right front List.mem_cons_self)

theorem length_tokens (ts : List Token) :
    (ofTokens (numberTokens ts)).tokens.length = ts.length := by
  rw [ofTokens, numberTokens, List.length_map, List.length_zipIdx]

theorem any_ne_comment_of_silent {gap : List Lexeme}
    (h : ∀ t ∈ gap, t.kind = .comment ∨ t.kind = .newline) :
    gap.any (·.kind != .comment) = true ↔ ∃ t ∈ gap, t.kind = .newline := by
  rw [List.any_eq_true]
  refine exists_congr fun t => and_congr_right fun ht => ?_
  rcases h t ht with hkind | hkind <;> simp [hkind]

/-- Among tokens that are no code and in front of another token, what is no comment ends a line. -/
theorem any_ne_comment_iff (hts : EndsOnce ts) {front gap back : List Lexeme} {q : Lexeme}
    (h : (ofTokens (numberTokens ts)).tokens = front ++ (gap ++ q :: back))
    (hgap : ∀ t ∈ gap, t.isCode = false) :
    gap.any (·.kind != .comment) = true ↔ ∃ t ∈ gap, t.kind = .newline := by
  refine any_ne_comment_of_silent fun t ht => ?_
  obtain ⟨before, after, rfl⟩ := List.append_of_mem ht
  have hcut : (ofTokens (numberTokens ts)).tokens =
      (front ++ before) ++ t :: (after ++ q :: back) := by
    rw [h]
    simp
  have hend : t.kind ≠ .endOfInput := kind_ne_endOfInput hts hcut (by simp)
  have hcode := hgap t ht
  cases hkind : t.kind <;> simp_all [Token.isCode]

theorem endsBefore_iff {current : Statement} {before : List Lexeme} {p q : Lexeme}
    (htokens : current.tokens = before ++ [p]) (hlast : current.last = p) :
    current.progress.endsBefore q = true ↔
      depthBehind ((before ++ [p]).map (·.toToken)) 0 = 0 ∧ p.asksForMore = false ∧
        ((p.isOperator "=>" = true ∨
          (current.first.isIdentifier = true ∧ current.first.text ∈ Vocabulary.blockOpeners)) ∨
        ¬ (q.kind = .operator ∧ q.text ∈ Vocabulary.leadingOperators)) := by
  rw [← htokens]
  simp only [Statement.Progress.endsBefore, Statement.Progress.opensBlock, Statement.progress,
    hlast, Token.leadsContinuation, Bool.and_eq_true, Bool.or_eq_true, Bool.not_eq_true',
    beq_iff_eq, and_assoc, List.contains_iff_mem, ← Bool.not_eq_true]

theorem asksForMore_eq_false_iff {p : Token} :
    p.asksForMore = false ↔ p.isPunctuation "," = false ∧ (p.kind = .operator → p.text = "=>") := by
  rw [Token.asksForMore, Bool.or_eq_false_iff, and_comm]
  simp

/-- The statement that is resumed stands behind the closed ones. -/
theorem getElem?_resumed {closed : List Statement} {current : Statement} {broken : Bool}
    {back : List Lexeme}
    (h : (ofTokens (numberTokens ts)).statements = closed ++ current.resume broken back) :
    (ofTokens (numberTokens ts)).statements[closed.length]? =
      some ⟨current.first,
        current.rest ++ (Statement.segmentFrom current.progress broken back).1⟩ := by
  rw [h, List.getElem?_append_right (Nat.le_refl _), Nat.sub_self]
  rfl

/-- The statement that is resumed starts with what has been read. -/
theorem exists_resumed {closed : List Statement} {current : Statement} {broken : Bool}
    {back : List Lexeme}
    (h : (ofTokens (numberTokens ts)).statements = closed ++ current.resume broken back) :
    ∃ s rest, (ofTokens (numberTokens ts)).statements[closed.length]? = some s ∧
      s.first = current.first ∧ s.tokens = current.tokens ++ rest :=
  ⟨_, (Statement.segmentFrom current.progress broken back).1, getElem?_resumed h, rfl, rfl⟩

theorem pairwise_index_tokens {n : Nat} {s : Statement}
    (hs : (ofTokens (numberTokens ts)).statements[n]? = some s) :
    s.tokens.Pairwise (·.index < ·.index) :=
  (List.pairwise_flatMap.1 (pairwise_index_statements ts)).1 s (List.mem_of_getElem? hs)

theorem nodup_tokens {n : Nat} {s : Statement}
    (hs : (ofTokens (numberTokens ts)).statements[n]? = some s) : s.tokens.Nodup := by
  refine (pairwise_index_tokens hs).imp ?_
  rintro t u hlt rfl
  exact Nat.lt_irrefl _ hlt

/-- The statement that is resumed behind `p` is the one that `p` stands in. -/
theorem resumed_eq {before after back : List Lexeme} {p : Lexeme} {n : Nat} {s : Statement}
    {closed : List Statement} {current : Statement} {broken : Bool}
    (h : (ofTokens (numberTokens ts)).statements = closed ++ current.resume broken back)
    (hlast : current.last = p) (hs : (ofTokens (numberTokens ts)).statements[n]? = some s)
    (hsp : s.tokens = before ++ p :: after) :
    n = closed.length ∧ s.first = current.first ∧ current.tokens = before ++ [p] := by
  obtain ⟨s', rest, hs', hfirst, htokens⟩ := exists_resumed h
  obtain ⟨inside, hinside⟩ := current.exists_tokens_eq_concat
  rw [hinside, hlast, List.append_assoc, List.singleton_append] at htokens
  have hp : p ∈ s.tokens := by simp [hsp]
  have hp' : p ∈ s'.tokens := by simp [htokens]
  obtain rfl := statement_unique hs hs' hp hp' rfl
  obtain rfl : s = s' := Option.some.inj (hs.symm.trans hs')
  refine ⟨rfl, hfirst, ?_⟩
  -- the token stands once in its statement, so the two cuts are the same
  have hnodup := nodup_tokens hs
  rw [htokens, List.nodup_middle, List.nodup_cons, List.mem_append, not_or] at hnodup
  rw [htokens] at hsp
  obtain ⟨rfl, -, -⟩ := (List.append_cons_inj_of_notMem hnodup.1.1 hnodup.1.2).1 hsp
  rw [hinside, hlast]

/-- Two code tokens that follow each other stand in different statements if the statement of the
first one ends between them. -/
theorem statementOf?_ne_iff (hts : EndsOnce ts) {front gap back before after : List Lexeme}
    {p q : Lexeme} {n : Nat} {s : Statement}
    (h : (ofTokens (numberTokens ts)).tokens = front ++ p :: (gap ++ q :: back))
    (hp : p.isCode = true) (hq : q.isCode = true) (hgap : ∀ t ∈ gap, t.isCode = false)
    (hs : (ofTokens (numberTokens ts)).statements[n]? = some s)
    (hsp : s.tokens = before ++ p :: after) :
    (ofTokens (numberTokens ts)).statementOf? p.index ≠
        (ofTokens (numberTokens ts)).statementOf? q.index ↔
      EndsBetween s before p gap q := by
  obtain ⟨closed, current, hlast, hsegment⟩ := Statement.exists_segment_append front hp
  have hstatements : (ofTokens (numberTokens ts)).statements =
      closed ++ current.resume (gap.any (·.kind != .comment)) (q :: back) := by
    rw [← Bool.false_or (gap.any _), ← Statement.resume_gap hgap, ← hsegment, ← h]
    rfl
  obtain ⟨rfl, hfirst, htokens⟩ := resumed_eq hstatements hlast hs hsp
  have hline : gap.any (·.kind != .comment) = true ↔ ∃ t ∈ gap, t.kind = .newline :=
    any_ne_comment_iff hts (h.trans (List.append_cons ..)) hgap
  have hends : (gap.any (·.kind != .comment) && current.progress.endsBefore q) = true ↔
      EndsBetween s before p gap q := by
    rw [Bool.and_eq_true, hline, endsBefore_iff htokens hlast, asksForMore_eq_false_iff, ← hfirst]
    constructor
    · rintro ⟨hline, hdepth, ⟨hcomma, hoperator⟩, hseparate⟩
      exact ⟨hline, hdepth, hcomma, hoperator, hseparate⟩
    · rintro ⟨hline, hdepth, hcomma, hoperator, hseparate⟩
      exact ⟨hline, hdepth, ⟨hcomma, hoperator⟩, hseparate⟩
  have hpOf : (ofTokens (numberTokens ts)).statementOf? p.index = some closed.length :=
    statementOf?_of_mem hs (by simp [hsp])
  rw [← hends, hpOf]
  cases hbreak : gap.any (·.kind != .comment) && current.progress.endsBefore q with
  | true =>
      rw [Statement.resume_ends hq hbreak, List.append_cons] at hstatements
      obtain ⟨s', rest, hs', -, htokens'⟩ := exists_resumed hstatements
      have hqOf := statementOf?_of_mem hs' (t := q) (by rw [htokens']; exact List.mem_cons_self)
      rw [hqOf]
      simp
  | false =>
      rw [Statement.resume_goesOn hq hbreak] at hstatements
      obtain ⟨s', rest, hs', -, htokens'⟩ := exists_resumed hstatements
      have hqOf := statementOf?_of_mem hs' (t := q) (by simp [htokens', Statement.tokens_push])
      rw [hqOf]
      simp

/-- The statements of an outline partition its code. -/
structure Partitioned (o : Outline) : Prop where
  /-- No statement is empty. -/
  nonempty : ∀ s ∈ o.statements, s.tokens ≠ []
  /-- One behind the other the statements have the numbers of all code tokens, in order. -/
  numbers : (o.statements.flatMap fun s => s.tokens.map (·.index)) =
    (List.range o.tokens.length).filter fun i => o.tokens[i]?.any (·.isCode)
  /-- The tokens of those numbers are the ones that the statements have. -/
  tokens : o.statements.flatMap (·.tokens) = o.tokens.filter (·.isCode)
  /-- A token is in the statement that the outline says. -/
  owner : ∀ i n, o.statementOf? i = some n ↔
    ∃ s, o.statements[n]? = some s ∧ i ∈ s.tokens.map (·.index)
  /-- Of two code tokens that follow each other, the second one is in another statement exactly if
  the statement of the first one ends between them. -/
  ends : ∀ front p gap q back, o.tokens = front ++ p :: (gap ++ q :: back) →
    p.isCode = true → q.isCode = true → (∀ t ∈ gap, t.isCode = false) →
    ∀ (n : Nat) (s : Statement) before after, o.statements[n]? = some s →
      s.tokens = before ++ p :: after →
      (o.statementOf? p.index ≠ o.statementOf? q.index ↔ EndsBetween s before p gap q)
  /-- Blank lines and comments in front of a token have no influence: they may give way to others, as
  long as a line ends among both or among neither. -/
  silent : ∀ front gap q back, o.tokens = front ++ (gap ++ q :: back) → ∀ other,
    (∀ t ∈ gap ++ other, t.kind = .comment ∨ t.kind = .newline) →
    ((∃ t ∈ gap, t.kind = .newline) ↔ ∃ t ∈ other, t.kind = .newline) →
    Statement.Pass.start.run (front ++ (other ++ q :: back)) = o.statements

/-- The pass cuts the statements of a script in which other blank lines and comments stand in front of a
token. -/
theorem run_replace (hts : EndsOnce ts) {front gap other back : List Lexeme} {q : Lexeme}
    (h : (ofTokens (numberTokens ts)).tokens = front ++ (gap ++ q :: back))
    (hother : ∀ t ∈ other, t.kind = .comment ∨ t.kind = .newline) :
    Statement.Pass.start.run (front ++ (other ++ q :: back)) =
      Statement.segment (front ++ (other ++ q :: back)) := by
  obtain ⟨body, last, hnumbers, hlast, -, hbody⟩ := hts.exists_numbered
  obtain ⟨rest, last', hback⟩ : ∃ rest last', q :: back = rest ++ [last'] :=
    ⟨_, _, (List.dropLast_append_getLast (List.cons_ne_nil q back)).symm⟩
  have hcut : front ++ (gap ++ rest) ++ [last'] = body ++ [last] := by
    rw [List.append_assoc, List.append_assoc, ← hback]
    exact h.symm.trans hnumbers
  obtain ⟨rfl, hsame⟩ := List.append_inj' hcut rfl
  obtain rfl : last' = last := List.singleton_inj.1 hsame
  rw [hback, ← List.append_assoc other, ← List.append_assoc front]
  refine Statement.Pass.run_eq (fun t ht => ?_) hlast
  rcases List.mem_append.1 ht with ht | ht
  · exact hbody t (List.mem_append_left _ ht)
  · rcases List.mem_append.1 ht with ht | ht
    · rcases hother t ht with hkind | hkind <;> rw [hkind] <;> decide
    · exact hbody t (List.mem_append_right _ (List.mem_append_right _ ht))

/-- Tokens that end with the end of the script have statements that partition their code. -/
theorem partitioned_ofTokens (hts : EndsOnce ts) : (ofTokens (numberTokens ts)).Partitioned where
  nonempty s _ := List.cons_ne_nil s.first s.rest
  numbers := by
    rw [← List.map_flatMap, flatMap_tokens_statements, length_tokens]
    exact map_index_filter ts (·.isCode)
  tokens := flatMap_tokens_statements ts
  owner i n := by
    simp only [List.mem_map]
    exact statementOf?_eq_some_iff
  ends front p gap q back h hp hq hgap n s before after hs hsp :=
    statementOf?_ne_iff hts h hp hq hgap hs hsp
  silent front gap q back h other hkind hline := by
    obtain ⟨hgap, hother⟩ := List.forall_mem_append.1 hkind
    have hany : gap.any (·.kind != .comment) = other.any (·.kind != .comment) := by
      rw [Bool.eq_iff_iff, any_ne_comment_of_silent hgap, any_ne_comment_of_silent hother, hline]
    have hstatements : (ofTokens (numberTokens ts)).statements =
        Statement.segment (front ++ (gap ++ q :: back)) := by
      rw [← h]
      rfl
    rw [hstatements, run_replace hts h hother]
    exact (Statement.segment_gap_congr (fun t ht => Token.isCode_of_silent (hgap t ht))
      (fun t ht => Token.isCode_of_silent (hother t ht)) hany front (q :: back)).symm

/-- Whatever a script looks like, its statements partition its code. -/
theorem statements_partition_code (source : String) (tab : Nat) :
    (Outline.read source tab).Partitioned := by
  rw [Outline.read_eq]
  exact partitioned_ofTokens (endsOnce_readTokens source tab)

/-- A minus at the start of a line goes on with a statement, but not with one that opens a block. -/
theorem statements_partition_header :
    let o := Outline.read "if (a)\n//\n- b" 1
    let s : Statement := ⟨⟨⟨.identifier, "if", ⟨1, 1⟩⟩, 0⟩, (o.tokens.drop 1).take 3⟩
    let p : Lexeme := ⟨⟨.punctuation, ")", ⟨1, 6⟩⟩, 3⟩
    let q : Lexeme := ⟨⟨.operator, "-", ⟨3, 1⟩⟩, 7⟩
    let gap := (o.tokens.drop 4).take 3
    o.statements[0]? = some s ∧ EndsBetween s (o.tokens.take 3) p gap q ∧
      o.statementOf? 3 ≠ o.statementOf? 7 := by
  intro o s p q gap
  have hcut : o.tokens = o.tokens.take 3 ++ p :: (gap ++ q :: o.tokens.drop 8) := by decide +kernel
  have hgap : ∀ t ∈ gap, t.isCode = false := by decide +kernel
  have hs : o.statements[0]? = some s := by decide +kernel
  have hsp : s.tokens = o.tokens.take 3 ++ p :: [] := by decide +kernel
  have hends : EndsBetween s (o.tokens.take 3) p gap q := by
    refine ⟨by decide +kernel, by decide +kernel, rfl, nofun, Or.inl (Or.inr ?_)⟩
    decide
  have hpartitioned := statements_partition_code "if (a)\n//\n- b" 1
  exact ⟨hs, hends, (hpartitioned.ends _ p gap q _ hcut rfl rfl hgap 0 s _ _ hs hsp).2 hends⟩

end Outline

end ChartLint
