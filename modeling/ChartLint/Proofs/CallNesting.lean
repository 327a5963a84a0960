import ChartLint.Proofs.InBounds

/-!
# Calls are properly nested

Calls are found by their names, and each one is closed by counting brackets from its parenthesis on,
without a look at other calls, at the kinds of brackets or at the ends of statements.  Still two
calls are either apart or one in the other, whatever the brackets of a script look like.

*Depths.*  Counting from a larger depth closes later, or both counts reach the end of the script
(`closingFrom_lt`).  The arguments of a call hold the name of an inner call at a depth of one or
more, and there the inner call starts to count at one.  So the inner call is closed first
(`nestsWith_of_parts`).

*Statements.*  A statement counts brackets from its own start, so behind the parenthesis of a call
it counts no less than the call does, and does not end before the call is closed
(`mem_segmentFrom_of_le_closing`).

*Kinds.*  If each closing bracket is of the kind of the last one that is open, the bracket at which
the count of a call returns to zero is a parenthesis (`exists_closing_of_nestsByKind`).
-/

namespace ChartLint

/-! ## Depths behind a token -/

namespace Token

theorem not_isClosing_of_isOpening {t : Token} (h : t.isOpening = true) : t.isClosing = false := by
  rw [isOpening, Bool.and_eq_true] at h
  rw [isClosing, Bool.and_eq_false_iff]
  right
  have htext := h.2
  simp only [List.contains_cons, List.contains_nil, Bool.or_false, Bool.or_eq_true,
    beq_iff_eq] at htext
  rcases htext with htext | htext | htext <;> rw [htext] <;> decide

theorem depthAfter_opening {t : Token} (h : t.isOpening = true) (depth : Nat) :
    t.depthAfter depth = depth + 1 := by
  rw [depthAfter, if_pos h]

theorem depthAfter_closing {t : Token} (h : t.isClosing = true) (depth : Nat) :
    t.depthAfter depth = depth - 1 := by
  cases hopening : t.isOpening with
  | true =>
      rw [not_isClosing_of_isOpening hopening] at h
      cases h
  | false => rw [depthAfter, hopening, if_neg Bool.false_ne_true, if_pos h]

theorem depthAfter_quiet {t : Token} (hopening : t.isOpening = false)
    (hclosing : t.isClosing = false) (depth : Nat) : t.depthAfter depth = depth := by
  rw [depthAfter, hopening, hclosing, if_neg Bool.false_ne_true, if_neg Bool.false_ne_true]

theorem depthAfter_mono (t : Token) {a b : Nat} (h : a ≤ b) : t.depthAfter a ≤ t.depthAfter b := by
  rw [depthAfter, depthAfter]
  split
  · exact Nat.succ_le_succ h
  · split
    · exact Nat.sub_le_sub_right h 1
    · exact h

theorem depthAfter_lt (t : Token) {a b : Nat} (ha : 0 < a) (h : a < b) :
    t.depthAfter a < t.depthAfter b := by
  rw [depthAfter, depthAfter]
  split
  · exact Nat.succ_lt_succ h
  · split
    · omega
    · exact h

theorem isOpening_of_paren {t : Token} (h : t.isPunctuation "(" = true) : t.isOpening = true := by
  obtain ⟨hkind, htext⟩ := isPunctuation_iff.1 h
  simp [isOpening, hkind, htext]

end Token

namespace Call

/-! ## Where a call is closed -/

theorem closingFrom_append {depth : Nat} (hdepth : 0 < depth) (fallback : Nat)
    (front back : List Lexeme) :
    (∃ t ∈ front, closingFrom depth fallback (front ++ back) = t.index) ∨
      ∃ depth', 0 < depth' ∧
        closingFrom depth fallback (front ++ back) = closingFrom depth' fallback back := by
  induction front generalizing depth with
  | nil => exact Or.inr ⟨depth, hdepth, rfl⟩
  | cons t front ih =>
      rw [List.cons_append, closingFrom]
      by_cases hcloses : (t.isClosing && t.depthAfter depth == 0) = true
      · rw [if_pos hcloses]
        exact Or.inl ⟨t, List.mem_cons_self, rfl⟩
      · rw [if_neg hcloses]
        rcases ih (ParameterList.depthAfter_pos hdepth hcloses) with ⟨u, hu, h⟩ | h
        · exact Or.inl ⟨u, List.mem_cons_of_mem t hu, h⟩
        · exact Or.inr h

/-- Tokens that are no brackets are passed over. -/
theorem closingFrom_quiet {front : List Lexeme}
    (h : ∀ t ∈ front, t.isOpening = false ∧ t.isClosing = false) (depth fallback : Nat)
    (back : List Lexeme) :
    closingFrom depth fallback (front ++ back) = closingFrom depth fallback back := by
  induction front with
  | nil => rfl
  | cons t front ih =>
      obtain ⟨⟨hopening, hclosing⟩, hfront⟩ := List.forall_mem_cons.1 h
      rw [List.cons_append, closingFrom, Token.depthAfter_quiet hopening hclosing, hclosing,
        Bool.false_and, if_neg Bool.false_ne_true, ih hfront]

theorem closingFrom_opening {t : Lexeme} (h : t.isOpening = true) (depth fallback : Nat)
    (ts : List Lexeme) :
    closingFrom depth fallback (t :: ts) = closingFrom (depth + 1) fallback ts := by
  rw [closingFrom, Token.not_isClosing_of_isOpening h, Bool.false_and,
    if_neg Bool.false_ne_true, Token.depthAfter_opening h]

/-- From a larger depth the bracket at which the depth returns to zero stands further behind, unless
both are missing. -/
theorem closingFrom_lt {a b fallback : Nat} (ha : 0 < a) (hab : a < b) {ts : List Lexeme}
    (hindex : ts.Pairwise (·.index < ·.index)) (hend : ∀ t ∈ ts, t.index < fallback) :
    closingFrom a fallback ts < closingFrom b fallback ts ∨
      (closingFrom a fallback ts = fallback ∧ closingFrom b fallback ts = fallback) := by
  induction ts generalizing a b with
  | nil => exact Or.inr ⟨rfl, rfl⟩
  | cons t ts ih =>
      obtain ⟨hbehind, hindex⟩ := List.pairwise_cons.1 hindex
      obtain ⟨ht, hts⟩ := List.forall_mem_cons.1 hend
      have hlt := t.depthAfter_lt ha hab
      have hopen : ¬ (t.isClosing && t.depthAfter b == 0) = true := by
        simp [Nat.ne_of_gt (Nat.zero_lt_of_lt hlt)]
      rw [closingFrom, closingFrom, if_neg hopen]
      by_cases hcloses : (t.isClosing && t.depthAfter a == 0) = true
      · rw [if_pos hcloses]
        exact Or.inl (closingFrom_bounds ht fun u hu => ⟨hbehind u hu, hts u hu⟩).1
      · rw [if_neg hcloses]
        exact ih (ParameterList.depthAfter_pos ha hcloses) hlt hindex hts

/-! ## The parts of a call -/

/-- What a call is read off: the first token of its name, the rest of the name, the parenthesis and
the code behind it. -/
structure Parts (fallback : Nat) (c : Call) (head : Lexeme) (chain : List Lexeme) (paren : Lexeme)
    (args : List Lexeme) : Prop where
  quiet : ∀ t ∈ head :: chain, t.isOpening = false ∧ t.isClosing = false
  isParen : paren.isPunctuation "(" = true
  nameStart : c.nameStart = head.index
  opening : c.opening = paren.index
  closing : c.closing = closingFrom 1 fallback args

theorem quiet_of_isIdentifier {t : Token} (h : t.isIdentifier = true) :
    t.isOpening = false ∧ t.isClosing = false := by
  have hkind := Token.isIdentifier_iff.1 h
  simp [Token.isOpening, Token.isClosing, hkind]

theorem quiet_of_point {t : Token} (h : t.isPunctuation "." = true) :
    t.isOpening = false ∧ t.isClosing = false := by
  obtain ⟨-, htext⟩ := Token.isPunctuation_iff.1 h
  simp [Token.isOpening, Token.isClosing, htext]

theorem exists_chain (ts : List Lexeme) :
    ∃ chain, ts = chain ++ (members ts).2 ∧
      ∀ t ∈ chain, t.isOpening = false ∧ t.isClosing = false := by
  fun_induction members ts with
  | case1 point name ts h more rest hrest ih =>
      rw [hrest] at ih
      obtain ⟨chain, hts, hchain⟩ := ih
      rw [Bool.and_eq_true] at h
      refine ⟨point :: name :: chain, by rw [hts]; rfl, ?_⟩
      rw [List.forall_mem_cons, List.forall_mem_cons]
      exact ⟨quiet_of_point h.1, quiet_of_isIdentifier h.2, hchain⟩
  | case2 point name ts h => exact ⟨[], rfl, by simp⟩
  | case3 ts h => exact ⟨[], rfl, by simp⟩

theorem exists_parts_of_ofChain? {head : Lexeme} {members rest chain : List Lexeme} {fallback : Nat}
    {c : Call} (h : ofChain? head members rest fallback = some c)
    (hhead : head.isIdentifier = true)
    (hchain : ∀ t ∈ chain, t.isOpening = false ∧ t.isClosing = false) :
    ∃ paren args, rest = paren :: args ∧ Parts fallback c head chain paren args := by
  cases rest with
  | nil => cases h
  | cons paren args =>
      rw [ofChain?] at h
      split at h
      case isFalse => cases h
      case isTrue hparen =>
        obtain rfl := Option.some.inj h
        refine ⟨paren, args, rfl, ?_, hparen, rfl, rfl, rfl⟩
        exact List.forall_mem_cons.2 ⟨quiet_of_isIdentifier hhead, hchain⟩

/-- A call has its parts among the tokens that it was found in. -/
theorem exists_parts_of_mem_findFrom {fallback : Nat} {afterPoint : Bool} {ts : List Lexeme}
    {c : Call} (hc : c ∈ findFrom fallback afterPoint ts) :
    ∃ before head chain paren args, ts = before ++ head :: (chain ++ paren :: args) ∧
      Parts fallback c head chain paren args := by
  fun_induction findFrom fallback afterPoint ts with
  | case1 => cases hc
  | case2 afterPoint t ts h ih =>
      rw [Bool.and_eq_true] at h
      obtain ⟨chain, hts, hchain⟩ := exists_chain ts
      rcases List.mem_append.1 hc with hc | hc
      · obtain ⟨paren, args, hrest, hparts⟩ :=
          exists_parts_of_ofChain? (Option.mem_toList.1 hc) h.1 hchain
        refine ⟨[], t, chain, paren, args, ?_, hparts⟩
        rw [List.nil_append, ← hrest, ← hts]
      · obtain ⟨before, head, chain', paren, args, hrest, hparts⟩ := ih hc
        refine ⟨t :: (chain ++ before), head, chain', paren, args, ?_, hparts⟩
        rw [List.cons_append, List.append_assoc, ← hrest, ← hts]
  | case3 afterPoint t ts h ih =>
      obtain ⟨before, head, chain, paren, args, rfl, hparts⟩ := ih hc
      exact ⟨t :: before, head, chain, paren, args, rfl, hparts⟩

/-! ## Two calls -/

/-- How a call stands to one behind it: the other one comes when it is closed, or in its arguments,
and there it is closed before it, or both reach to the end of the script. -/
def NestsWith (last : Nat) (c d : Call) : Prop :=
  c.closing < d.nameStart ∨ (c.opening < d.nameStart ∧ d.closing < c.closing) ∨
    (c.opening < d.nameStart ∧ c.closing = last ∧ d.closing = last)

theorem nestsWith_of_parts {fallback : Nat} {c d : Call} {inner chain args : List Lexeme}
    {head paren : Lexeme} (hd : Parts fallback d head chain paren args)
    (hopening : c.opening < head.index)
    (hclosing : c.closing = closingFrom 1 fallback (inner ++ head :: (chain ++ paren :: args)))
    (hindex : (inner ++ head :: (chain ++ paren :: args)).Pairwise (·.index < ·.index))
    (hend : ∀ t ∈ args, t.index < fallback) : NestsWith fallback c d := by
  rw [NestsWith, hd.nameStart, hd.closing, hclosing]
  rcases closingFrom_append Nat.one_pos fallback inner
    (head :: (chain ++ paren :: args)) with ⟨t, ht, hinner⟩ | ⟨depth, hdepth, hinner⟩
  · left
    rw [hinner]
    exact (List.pairwise_append.1 hindex).2.2 t ht head List.mem_cons_self
  · right
    have hargs : args.Pairwise (·.index < ·.index) := by
      refine hindex.sublist ?_
      exact ((((List.sublist_cons_self paren args).trans (List.sublist_append_right chain _)).trans
        (List.sublist_cons_self head _)).trans (List.sublist_append_right inner _))
    have hname : closingFrom depth fallback (head :: (chain ++ paren :: args)) =
        closingFrom (depth + 1) fallback args := by
      rw [← List.cons_append, closingFrom_quiet hd.quiet,
        closingFrom_opening (Token.isOpening_of_paren hd.isParen)]
    rw [hinner, hname]
    rcases closingFrom_lt Nat.one_pos (Nat.lt_add_of_pos_left hdepth) hargs hend with hlt | heq
    · exact Or.inl ⟨hopening, hlt⟩
    · exact Or.inr ⟨hopening, heq.2, heq.1⟩

/-- A call and one that is found behind its name. -/
theorem nestsWith_of_ofChain? {head : Lexeme} {members rest : List Lexeme} {fallback : Nat}
    {c d : Call} (hc : ofChain? head members rest fallback = some c)
    (hhead : head.isIdentifier = true) (hd : d ∈ findFrom fallback false rest)
    (hindex : rest.Pairwise (·.index < ·.index)) (hend : ∀ t ∈ rest, t.index < fallback) :
    NestsWith fallback c d := by
  obtain ⟨paren, args, rfl, hparts⟩ := exists_parts_of_ofChain? hc hhead (List.forall_mem_nil _)
  obtain ⟨before, name, chain, paren', args', hcut, hparts'⟩ := exists_parts_of_mem_findFrom hd
  cases before with
  | nil =>
      -- the parenthesis of the first call is no name
      obtain ⟨rfl, -⟩ := List.cons.inj hcut
      have hquiet := (hparts'.quiet paren List.mem_cons_self).1
      rw [Token.isOpening_of_paren hparts.isParen] at hquiet
      cases hquiet
  | cons first inner =>
      obtain ⟨rfl, rfl⟩ := List.cons.inj hcut
      obtain ⟨hparen, hindex⟩ := List.pairwise_cons.1 hindex
      refine nestsWith_of_parts hparts' ?_ hparts.closing hindex ?_
      · rw [hparts.opening]
        exact hparen name (by simp)
      · intro t ht
        exact hend t (by simp [ht])

theorem pairwise_findFrom {fallback : Nat} {afterPoint : Bool} {ts : List Lexeme}
    (hindex : ts.Pairwise (·.index < ·.index)) (hend : ∀ t ∈ ts, t.index < fallback) :
    (findFrom fallback afterPoint ts).Pairwise (NestsWith fallback) := by
  fun_induction findFrom fallback afterPoint ts with
  | case1 => exact .nil
  | case2 afterPoint t ts h ih =>
      rw [Bool.and_eq_true] at h
      have hsuffix := members_suffix ts
      have hindex := (List.pairwise_cons.1 hindex).2.sublist hsuffix.sublist
      have hend : ∀ u ∈ (members ts).2, u.index < fallback :=
        fun u hu => hend u (List.mem_cons_of_mem t (hsuffix.subset hu))
      refine List.pairwise_append.2 ⟨?_, ih hindex hend, ?_⟩
      · cases ofChain? t (members ts).1 (members ts).2 fallback with
        | none => exact .nil
        | some c => exact List.pairwise_singleton _ c
      · intro c hc d hd
        exact nestsWith_of_ofChain? (Option.mem_toList.1 hc) h.1 hd hindex hend
  | case3 afterPoint t ts h ih =>
      exact ih (List.pairwise_cons.1 hindex).2 (List.forall_mem_cons.1 hend).2

theorem opening_lt_of_nestsWith {last : Nat} {c d : Call} (h : NestsWith last c d)
    (hc : c.Ordered last) (hd : d.Ordered last) : c.opening < d.opening := by
  obtain ⟨-, hclosing, -⟩ := hc
  obtain ⟨hname, -, -⟩ := hd
  rcases h with h | ⟨h, -⟩ | ⟨h, -, -⟩
  · exact Nat.lt_trans hclosing (Nat.lt_trans h hname)
  · exact Nat.lt_trans h hname
  · exact Nat.lt_trans h hname

/-- Of two calls that have a token in common, the one behind is in the other. -/
theorem contains_of_nestsWith {last : Nat} {c d : Call} (h : NestsWith last c d)
    (hd : d.Ordered last) {i j : Nat} (hci : c.contains i = true) (hdi : d.contains i = true)
    (hj : d.contains j = true) : c.contains j = true := by
  obtain ⟨hname, -, -⟩ := hd
  simp only [contains, Bool.and_eq_true, decide_eq_true_eq] at hci hdi hj ⊢
  rcases h with h | ⟨h, hclosing⟩ | ⟨h, hc, hd⟩
  · omega
  · omega
  · omega

/-! ## Brackets by kind -/

/-- The closing bracket of the kind of an opening one. -/
def closer? (t : Lexeme) : Option String :=
  if t.isPunctuation "(" then some ")"
  else if t.isPunctuation "[" then some "]"
  else if t.isPunctuation "\x7b" then some "\x7d"
  else none

/-- Are the brackets properly nested by kind?  `awaited` are the closing brackets that are still to
come, the next one first. -/
def nestsByKind (awaited : List String) : List Lexeme → Bool
  | [] => awaited.isEmpty
  | t :: ts =>
    match closer? t with
    | some closer => nestsByKind (closer :: awaited) ts
    | none =>
      if t.isClosing then awaited.head? == some t.text && nestsByKind awaited.tail ts
      else nestsByKind awaited ts

theorem isSome_closer? (t : Lexeme) : (closer? t).isSome = t.isOpening := by
  have hopening : t.isOpening =
      (t.isPunctuation "(" || (t.isPunctuation "[" || t.isPunctuation "\x7b")) := by
    rw [Token.isOpening, Token.isPunctuation, Token.isPunctuation, Token.isPunctuation,
      ← Bool.and_or_distrib_left, ← Bool.and_or_distrib_left]
    simp only [List.contains_cons, List.contains_nil, Bool.or_false]
  rw [hopening, closer?]
  cases t.isPunctuation "(" with
  | true => rfl
  | false =>
      cases t.isPunctuation "[" with
      | true => rfl
      | false => cases t.isPunctuation "\x7b" <;> rfl

theorem isOpening_of_closer? {t : Lexeme} {closer : String} (h : closer? t = some closer) :
    t.isOpening = true := by
  rw [← isSome_closer?, h, Option.isSome_some]

theorem isOpening_of_closer?_none {t : Lexeme} (h : closer? t = none) : t.isOpening = false := by
  rw [← isSome_closer?, h, Option.isSome_none]

/-- Only code has brackets. -/
theorem nestsByKind_filter (awaited : List String) (ts : List Lexeme) :
    nestsByKind awaited (ts.filter (·.isCode)) = nestsByKind awaited ts := by
  induction ts generalizing awaited with
  | nil => rfl
  | cons t ts ih =>
      cases hcode : t.isCode with
      | true =>
          rw [List.filter_cons_of_pos (by exact hcode), nestsByKind, nestsByKind]
          simp only [ih]
      | false =>
          have hkind : (t.kind == .punctuation) = false := by
            cases hkind : t.kind <;> simp_all [Token.isCode]
          have hcloser : closer? t = none := by simp [closer?, Token.isPunctuation, hkind]
          have hclosing : t.isClosing = false := by simp [Token.isClosing, hkind]
          rw [List.filter_cons_of_neg (by simp [hcode]), ih, nestsByKind, hcloser, hclosing]
          rfl

/-- Brackets that are properly nested are so from every place on, for what is awaited there. -/
theorem exists_nestsByKind_of_append {awaited : List String} {front back : List Lexeme}
    (h : nestsByKind awaited (front ++ back) = true) :
    ∃ awaited', nestsByKind awaited' back = true := by
  induction front generalizing awaited with
  | nil => exact ⟨awaited, h⟩
  | cons t front ih =>
      rw [List.cons_append, nestsByKind] at h
      split at h
      case h_1 => exact ih h
      case h_2 =>
        split at h
        case isTrue =>
          rw [Bool.and_eq_true] at h
          exact ih h.2
        case isFalse => exact ih h

/-- The bracket that closes what is open in front of some tokens is the one that is awaited for it.
`inner` are the brackets that are awaited before. -/
theorem exists_closing_of_nestsByKind (inner : List String) {outer : List String} {closer : String}
    {fallback : Nat} {ts : List Lexeme} (h : nestsByKind (inner ++ closer :: outer) ts = true) :
    ∃ t ∈ ts, t.index = closingFrom (inner.length + 1) fallback ts ∧
      t.isPunctuation closer = true := by
  induction ts generalizing inner with
  | nil => cases inner <;> cases h
  | cons t ts ih =>
      rw [nestsByKind] at h
      split at h
      case h_1 kind hkind =>
        have hopening := isOpening_of_closer? hkind
        obtain ⟨u, hu, hindex, htext⟩ := ih (kind :: inner) h
        refine ⟨u, List.mem_cons_of_mem t hu, ?_, htext⟩
        rw [closingFrom_opening hopening, hindex, List.length_cons]
      case h_2 hkind =>
        split at h
        case isTrue hclosing =>
          rw [Bool.and_eq_true, beq_iff_eq] at h
          rw [closingFrom, hclosing, Token.depthAfter_closing hclosing, Nat.add_sub_cancel,
            Bool.true_and]
          cases inner with
          | nil =>
              obtain ⟨htext, -⟩ := h
              refine ⟨t, List.mem_cons_self, rfl, Token.isPunctuation_iff.2 ⟨?_, ?_⟩⟩
              · rw [Token.isClosing, Bool.and_eq_true, beq_iff_eq] at hclosing
                exact hclosing.1
              · exact (Option.some.inj htext).symm
          | cons kind inner =>
              obtain ⟨u, hu, hindex, htext⟩ := ih inner h.2
              refine ⟨u, List.mem_cons_of_mem t hu, ?_, htext⟩
              rw [hindex, List.length_cons, if_neg (by simp)]
        case isFalse hclosing =>
          rw [Bool.not_eq_true] at hclosing
          obtain ⟨u, hu, hindex, htext⟩ := ih inner h
          refine ⟨u, List.mem_cons_of_mem t hu, ?_, htext⟩
          have hquiet := Token.depthAfter_quiet (isOpening_of_closer?_none hkind) hclosing
          rw [closingFrom, hclosing, Bool.false_and, if_neg Bool.false_ne_true, hquiet, hindex]

end Call

/-! ## The statement of a call -/

/-- The statement being read goes on up to the bracket that closes what is open in it. -/
theorem Statement.mem_segmentFrom_of_le_closing {p : Progress} {broken : Bool} {ts : List Lexeme}
    {depth fallback : Nat} (hdepth : 0 < depth) (hle : depth ≤ p.depth)
    (hindex : ts.Pairwise (·.index < ·.index)) {t : Lexeme} (ht : t ∈ ts) (hcode : t.isCode = true)
    (hclosing : t.index ≤ Call.closingFrom depth fallback (ts.filter (·.isCode))) :
    t ∈ (segmentFrom p broken ts).1 := by
  -- along the tokens the statement counts no fewer open brackets than the call does
  fun_induction segmentFrom p broken ts generalizing depth with
  | case1 => cases ht
  | case2 p broken u ts hu hends =>
      rw [Progress.endsBefore] at hends
      simp [Nat.ne_of_gt (Nat.lt_of_lt_of_le hdepth hle)] at hends
  | case3 p broken u ts hu hends rest more hrest ih =>
      rcases List.mem_cons.1 ht with rfl | ht
      · exact List.mem_cons_self
      obtain ⟨hbehind, hindex⟩ := List.pairwise_cons.1 hindex
      rw [List.filter_cons_of_pos (by exact hu), Call.closingFrom] at hclosing
      split at hclosing
      case isTrue => exact absurd (hbehind t ht) (Nat.not_lt_of_le hclosing)
      case isFalse hopen =>
        have hpos := ParameterList.depthAfter_pos hdepth hopen
        have hmem := ih hpos (u.depthAfter_mono hle) hindex ht hclosing
        rw [hrest] at hmem
        exact List.mem_cons_of_mem u hmem
  | case4 p broken u ts hu ih =>
      rw [List.filter_cons_of_neg (by exact hu)] at hclosing
      rcases List.mem_cons.1 ht with rfl | ht
      · exact absurd hcode hu
      · exact ih hdepth hle (List.pairwise_cons.1 hindex).2 ht hclosing

theorem Statement.depth_progress_pos {s : Statement} (h : s.last.isOpening = true) :
    0 < s.progress.depth := by
  obtain ⟨inside, hinside⟩ := s.exists_tokens_eq_concat
  rw [progress, hinside, List.map_append, List.map_singleton, depthBehind_append, depthBehind_cons,
    depthBehind_nil, Token.depthAfter_opening h]
  exact Nat.succ_pos _

namespace Outline

variable {ts : List Token}

/-- A script is cut at the parenthesis of a call, and the call is closed in the code behind it. -/
theorem exists_cut_of_mem_calls {c : Call} (hc : c ∈ (ofTokens (numberTokens ts)).calls) :
    ∃ front paren back, (ofTokens (numberTokens ts)).tokens = front ++ paren :: back ∧
      paren.isCode = true ∧ paren.isPunctuation "(" = true ∧ c.opening = paren.index ∧
      c.closing = Call.closingFrom 1 ((ofTokens (numberTokens ts)).tokens.length - 1)
        (back.filter (·.isCode)) := by
  obtain ⟨before, head, chain, paren, args, hcode, hparts⟩ := Call.exists_parts_of_mem_findFrom hc
  rw [← List.cons_append, ← List.append_assoc] at hcode
  obtain ⟨front, rest, htokens, -, hrest⟩ := List.filter_eq_append_iff.1 hcode
  obtain ⟨gap, back, rfl, -, hparen, rfl⟩ := List.filter_eq_cons_iff.1 hrest
  refine ⟨front ++ gap, paren, back, ?_, hparen, hparts.isParen, hparts.opening, hparts.closing⟩
  rw [List.append_assoc]
  exact htokens

/-- The code from the parenthesis of a call up to its closing bracket stands in one statement. -/
theorem exists_statement_of_mem_calls {c : Call} (hc : c ∈ (ofTokens (numberTokens ts)).calls) :
    ∃ n, ∀ t ∈ (ofTokens (numberTokens ts)).tokens, t.isCode = true → c.opening ≤ t.index →
      t.index ≤ c.closing → (ofTokens (numberTokens ts)).statementOf? t.index = some n := by
  obtain ⟨front, paren, back, htokens, hcode, hparen, hstart, hend⟩ := exists_cut_of_mem_calls hc
  obtain ⟨closed, current, hlast, hsegment⟩ := Statement.exists_segment_append front hcode
  have hs := getElem?_resumed ((congrArg Statement.segment htokens).trans (hsegment back))
  refine ⟨closed.length, fun t ht hcode hlow hhigh => statementOf?_of_mem hs ?_⟩
  have hindex : (ofTokens (numberTokens ts)).tokens.Pairwise (·.index < ·.index) :=
    pairwise_index_numberFrom 0 ts
  rw [htokens] at ht hindex
  obtain ⟨-, hindex, hbefore⟩ := List.pairwise_append.1 hindex
  show t ∈ current.tokens ++ (Statement.segmentFrom current.progress false back).1
  rcases List.mem_append.1 ht with ht | ht
  · rw [hstart] at hlow
    exact absurd (hbefore t ht paren List.mem_cons_self) (Nat.not_lt_of_le hlow)
  rcases List.mem_cons.1 ht with rfl | ht
  · obtain ⟨inside, hinside⟩ := current.exists_tokens_eq_concat
    simp [hinside, hlast]
  · have hopening : current.last.isOpening = true := by
      rw [hlast]
      exact Token.isOpening_of_paren hparen
    have hdepth := Statement.depth_progress_pos hopening
    rw [hend] at hhigh
    exact List.mem_append_right _ (Statement.mem_segmentFrom_of_le_closing Nat.one_pos hdepth
      (List.pairwise_cons.1 hindex).2 ht hcode hhigh)

/-- If brackets are properly nested by kind, a call is closed by a parenthesis. -/
theorem exists_paren_of_nestsByKind (h : Call.nestsByKind [] (ofTokens (numberTokens ts)).tokens = true)
    {c : Call} (hc : c ∈ (ofTokens (numberTokens ts)).calls) :
    ∃ t ∈ (ofTokens (numberTokens ts)).tokens, t.index = c.closing ∧ t.isPunctuation ")" = true := by
  obtain ⟨front, paren, back, htokens, -, hparen, -, hend⟩ := exists_cut_of_mem_calls hc
  rw [htokens] at h
  obtain ⟨awaited, hcut⟩ := Call.exists_nestsByKind_of_append h
  have hcloser : Call.closer? paren = some ")" := if_pos hparen
  rw [Call.nestsByKind, hcloser] at hcut
  have hback : Call.nestsByKind (")" :: awaited) (back.filter (·.isCode)) = true :=
    (Call.nestsByKind_filter _ back).trans hcut
  obtain ⟨t, ht, hindex, htext⟩ := Call.exists_closing_of_nestsByKind [] hback
  refine ⟨t, ?_, hindex.trans hend.symm, htext⟩
  rw [htokens]
  exact List.mem_append_right front (List.mem_cons_of_mem paren (List.mem_filter.1 ht).1)

/-! ## Nesting -/

theorem pairwise_nestsWith (hts : EndsOnce ts) :
    (ofTokens (numberTokens ts)).calls.Pairwise
      (Call.NestsWith ((ofTokens (numberTokens ts)).tokens.length - 1)) := by
  refine Call.pairwise_findFrom ((pairwise_index_numberFrom 0 _).filter _) fun t ht => ?_
  obtain ⟨ht, hcode⟩ := List.mem_filter.1 ht
  exact index_lt_of_isCode hts ht hcode

/-- The last call that contains a token is in all others that do. -/
theorem contains_of_innermostCall? (hts : EndsOnce ts) {i : Nat} {c d : Call}
    (h : (ofTokens (numberTokens ts)).innermostCall? i = some c)
    (hd : d ∈ (ofTokens (numberTokens ts)).calls) (hdi : d.contains i = true) {j : Nat}
    (hj : c.contains j = true) : d.contains j = true := by
  obtain ⟨hc, hci⟩ := List.mem_filter.1 (List.mem_of_getLast? h)
  obtain ⟨others, hothers⟩ := List.getLast?_eq_some_iff.1 h
  have hnested := (pairwise_nestsWith hts).filter (·.contains i)
  have hmem : d ∈ (ofTokens (numberTokens ts)).calls.filter (·.contains i) :=
    List.mem_filter.2 ⟨hd, hdi⟩
  rw [hothers] at hnested hmem
  rcases List.mem_append.1 hmem with hmem | hmem
  · have hnests := (List.pairwise_append.1 hnested).2.2 d hmem c List.mem_cons_self
    exact Call.contains_of_nestsWith hnests (ordered_of_mem_calls hts hc).1 hdi hci hj
  · rw [List.mem_singleton.1 hmem]
    exact hj

/-- The calls of an outline are properly nested. -/
structure CallsNested (o : Outline) : Prop where
  /-- Calls come in the order of their parentheses. -/
  increasing : o.calls.Pairwise (·.opening < ·.opening)
  /-- Two calls are apart, or one is in the other, or both reach to the end of the script. -/
  nested : ∃ last, o.tokens.getLast? = some last ∧ last.kind = .endOfInput ∧
    o.calls.Pairwise (Call.NestsWith last.index)
  /-- From its parenthesis up to its closing bracket a call stands in one statement. -/
  statement : ∀ c ∈ o.calls, ∃ n, ∀ t ∈ o.tokens, t.isCode = true → c.opening ≤ t.index →
    t.index ≤ c.closing → o.statementOf? t.index = some n
  /-- The innermost call at a token contains it and is in all others that contain it. -/
  innermost : ∀ i c, o.innermostCall? i = some c → c ∈ o.calls ∧ c.contains i = true ∧
    ∀ d ∈ o.calls, d.contains i = true → ∀ j, c.contains j = true → d.contains j = true
  /-- There is none only where no call contains the token. -/
  outside : ∀ i, o.innermostCall? i = none ↔ ∀ c ∈ o.calls, ¬ c.contains i = true
  /-- Where brackets are properly nested by kind, a parenthesis closes each call. -/
  parentheses : Call.nestsByKind [] o.tokens = true →
    ∀ c ∈ o.calls, ∃ t ∈ o.tokens, t.index = c.closing ∧ t.isPunctuation ")" = true

/-- Whatever the brackets of a script look like, its calls are properly nested. -/
theorem calls_properly_nested (source : String) (tab : Nat) :
    (read source tab).CallsNested := by
  have hts := endsOnce_readTokens source tab
  rw [read_eq]
  exact {
    increasing := by
      refine (pairwise_nestsWith hts).imp_of_mem fun hc hd h => ?_
      exact Call.opening_lt_of_nestsWith h (ordered_of_mem_calls hts hc).1
        (ordered_of_mem_calls hts hd).1
    nested := by
      obtain ⟨last, hlast, hkind, hindex⟩ := exists_endOfInput hts
      refine ⟨last, hlast, hkind, ?_⟩
      rw [Nat.eq_sub_of_add_eq hindex]
      exact pairwise_nestsWith hts
    statement c hc := exists_statement_of_mem_calls hc
    innermost i c h := by
      obtain ⟨hc, hci⟩ := List.mem_filter.1 (List.mem_of_getLast? h)
      exact ⟨hc, hci, fun d hd hdi j hj => contains_of_innermostCall? hts h hd hdi hj⟩
    outside i := by
      rw [innermostCall?, List.getLast?_eq_none_iff, List.filter_eq_nil_iff]
    parentheses h c hc := exists_paren_of_nestsByKind h hc }

/-- A call in a list in a call, with brackets of the right kinds. -/
theorem calls_properly_nested_list :
    let o := read "f([g(a)])" 1
    let c : Call := ⟨"g", ⟨1, 4⟩, 3, 4, 6⟩
    Call.nestsByKind [] o.tokens = true ∧ o.calls.length = 2 ∧ o.innermostCall? 5 = some c ∧
      (∀ d ∈ o.calls, d.contains 5 = true → ∀ j, c.contains j = true → d.contains j = true) ∧
      ∃ t ∈ o.tokens, t.index = 6 ∧ t.isPunctuation ")" = true := by
  intro o c
  have hkinds : Call.nestsByKind [] o.tokens = true := by decide +kernel
  have hlength : o.calls.length = 2 := by decide +kernel
  have hinnermost : o.innermostCall? 5 = some c := by decide +kernel
  have hnested := calls_properly_nested "f([g(a)])" 1
  obtain ⟨hc, -, hothers⟩ := hnested.innermost 5 c hinnermost
  exact ⟨hkinds, hlength, hinnermost, hothers, hnested.parentheses hkinds c hc⟩

end Outline

end ChartLint
