import ChartLint.Proofs.LineTokens
import Mathlib.Data.List.Induction

/-!
# Judging the layout line by line

The layout is judged in one walk over the lines.  The walk is told here as a run: what is known in
front of a line, a *reading*, says whether the line continues a statement (`continuesAt`), and reading
the line gives what is known behind it (`read`).

*Findings.*  A line continues a statement if some width of the indentation makes it a finding
(`exists_finding_iff`): no line has every width at once.

*Statements.*  The indentation that a continuation line is measured by is that of the last line in front
that starts a statement (`checkFrom_append`).

*Invariant.*  A reading knows the bracket depth, which is that behind the tokens of the lines
(`depth_run`), and the last line with code, which is the line of the last code token
(`previous_run`).
-/

namespace ChartLint

namespace Layout

/-- What is known in front of a line: the bracket depth and the last line with code. -/
structure Reading where
  /-- The bracket depth. -/
  depth : Nat
  /-- The last line with code. -/
  previous : Option Previous

namespace Reading

/-- The shape of the next line. -/
def shape (r : Reading) (line : List Char) : LineShape :=
  .ofLine r.depth line

/-- Does the next line continue a statement? -/
def continuesAt (r : Reading) (line : List Char) : Bool :=
  !(r.shape line).isExempt && continues r.previous r.depth (r.shape line)

/-- What is known behind one more line. -/
def read (r : Reading) (number : Nat) (line : List Char) : Reading :=
  if (r.shape line).isExempt then r
  else ⟨(r.shape line).depthAfter, some ⟨number, r.shape line⟩⟩

/-- What is known behind some lines.  The first of them has the number `number`. -/
def run (r : Reading) (number : Nat) : List (List Char) → Reading
  | [] => r
  | line :: rest => (r.read number line).run (number + 1) rest

/-- The numbers of the lines that continue a statement. -/
def continued (r : Reading) (number : Nat) : List (List Char) → List Nat
  | [] => []
  | line :: rest =>
    (if r.continuesAt line then [number] else []) ++ (r.read number line).continued (number + 1) rest

theorem run_append (r : Reading) (number : Nat) (ls ls' : List (List Char)) :
    r.run number (ls ++ ls') = (r.run number ls).run (number + ls.length) ls' := by
  induction ls generalizing r number with
  | nil => rfl
  | cons line rest ih =>
      rw [List.cons_append, run, ih, run, List.length_cons, Nat.add_right_comm, Nat.add_assoc]

/-! ## Findings -/

/-- The indentation of the statement behind the line. -/
def baseBehind (r : Reading) (tab base : Nat) (line : List Char) : Nat :=
  if (r.shape line).isExempt || r.continuesAt line then base else (r.shape line).indent tab

/-- One step of the walk: the findings about a line, and those about the lines behind it. -/
theorem checkFrom_cons (s : Settings) (r : Reading) (base number : Nat) (line : List Char)
    (rest : List (List Char)) :
    checkFrom s r.depth r.previous base number (line :: rest) =
      (if r.continuesAt line then indentationFinding s number (r.shape line) base ++
        r.previous.toList.flatMap (placementFinding s) else []) ++
      checkFrom s (r.read number line).depth (r.read number line).previous
        (r.baseBehind s.tabWidth base line) (number + 1) rest := by
  have hshape : LineShape.ofLine r.depth line = r.shape line := rfl
  rw [checkFrom, hshape, read, baseBehind, continuesAt]
  cases hexempt : (r.shape line).isExempt with
  | true => rfl
  | false =>
      cases hcontinues : continues r.previous r.depth (r.shape line) with
      | true => rfl
      | false => rfl

theorem line_of_mem_indentationFinding {s : Settings} {number : Nat} {l : LineShape} {base : Nat}
    {d : Diagnostic} (h : d ∈ indentationFinding s number l base) : d.position.line = number := by
  rw [indentationFinding] at h
  split at h
  · rw [List.mem_singleton.1 h]
    rfl
  · cases h

theorem exists_requiredIndent_ne (s : Settings) (base width : Nat) :
    ∃ k, width ≠ requiredIndent { s with continuationIndent := k } base := by
  by_contra hall
  push Not at hall
  have h : Word.add base 0 = Word.add base 1 := (hall 0).symm.trans (hall 1)
  rw [Word.add_eq, Word.add_eq, Word.size_eq] at h
  omega

/-- Not every width of the indentation fits the one that is found. -/
theorem exists_mem_indentationFinding (s : Settings) (number : Nat) (l : LineShape) (base : Nat) :
    ∃ k, ∃ d ∈ indentationFinding { s with continuationIndent := k } number l base,
      d.category = .badIndentation ∧ d.position.line = number := by
  obtain ⟨k, hwidth⟩ := exists_requiredIndent_ne s base (l.indent s.tabWidth)
  refine ⟨k, ?_⟩
  rw [indentationFinding, if_pos (by simp [hwidth])]
  exact ⟨_, List.mem_singleton_self _, rfl, rfl⟩

theorem category_of_mem_placementFinding {s : Settings} {p : Previous} {d : Diagnostic}
    (h : d ∈ placementFinding s p) : d.category = .operatorPlacement := by
  rw [placementFinding] at h
  split at h
  · split at h
    · rw [List.mem_singleton.1 h]
      rfl
    · cases h
  · cases h

/-- A line continues a statement if some width of the indentation makes it a finding. -/
theorem exists_finding_iff (s : Settings) (r : Reading) (base number n : Nat)
    (ls : List (List Char)) :
    (∃ k, ∃ d ∈ checkFrom { s with continuationIndent := k } r.depth r.previous base number ls,
        d.category = .badIndentation ∧ d.position.line = n) ↔
      n ∈ r.continued number ls := by
  induction ls generalizing r base number with
  | nil => simp [checkFrom, continued]
  | cons line rest ih =>
      simp only [checkFrom_cons]
      rw [continued, List.mem_append, ← ih (r.read number line) (r.baseBehind s.tabWidth base line)]
      constructor
      · rintro ⟨k, d, hd, hcategory, rfl⟩
        rcases List.mem_append.1 hd with hd | hd
        · left
          split at hd
          case isTrue hcontinues =>
            rw [if_pos hcontinues, List.mem_singleton]
            rcases List.mem_append.1 hd with hd | hd
            · exact line_of_mem_indentationFinding hd
            · obtain ⟨p, -, hp⟩ := List.mem_flatMap.1 hd
              rw [category_of_mem_placementFinding hp] at hcategory
              cases hcategory
          case isFalse => cases hd
        · exact Or.inr ⟨k, d, hd, hcategory, rfl⟩
      · rintro (hn | ⟨k, d, hd, hcategory, hline⟩)
        · split at hn
          case isTrue hcontinues =>
            rw [List.mem_singleton] at hn
            subst hn
            obtain ⟨k, d, hd, hfinding⟩ := exists_mem_indentationFinding s n (r.shape line) base
            refine ⟨k, d, ?_, hfinding⟩
            rw [if_pos hcontinues]
            exact List.mem_append_left _ (List.mem_append_left _ hd)
          case isFalse => cases hn
        · exact ⟨k, d, List.mem_append_right _ hd, hcategory, hline⟩

theorem le_of_mem_continued {r : Reading} {number n : Nat} {ls : List (List Char)}
    (h : n ∈ r.continued number ls) : number ≤ n ∧ n < number + ls.length := by
  induction ls generalizing r number with
  | nil => cases h
  | cons line rest ih =>
      rw [List.length_cons]
      rw [continued, List.mem_append] at h
      rcases h with h | h
      · split at h
        · rw [List.mem_singleton] at h
          omega
        · cases h
      · have := ih h
        omega

theorem continued_append (r : Reading) (number : Nat) (ls ls' : List (List Char)) :
    r.continued number (ls ++ ls') =
      r.continued number ls ++ (r.run number ls).continued (number + ls.length) ls' := by
  induction ls generalizing r number with
  | nil => rfl
  | cons line rest ih =>
      rw [List.cons_append, continued, ih, continued, run, List.append_assoc, List.length_cons,
        Nat.add_right_comm, Nat.add_assoc]

/-- Whether a line continues a statement is decided by the lines in front of it. -/
theorem mem_continued_iff (r : Reading) (number : Nat) (before : List (List Char))
    (line : List Char) (after : List (List Char)) :
    number + before.length ∈ r.continued number (before ++ line :: after) ↔
      (r.run number before).continuesAt line = true := by
  rw [continued_append, List.mem_append, continued, List.mem_append]
  have hbefore : number + before.length ∉ r.continued number before := by
    intro h
    have := le_of_mem_continued h
    omega
  have hafter (r' : Reading) :
      number + before.length ∉ r'.continued (number + before.length + 1) after := by
    intro h
    have := le_of_mem_continued h
    omega
  split
  case isTrue h => simp [h]
  case isFalse h => simp [h, hbefore, hafter]

/-! ## The statement being read -/

/-- The lines that start a statement: they have code and continue nothing. -/
def starts (r : Reading) (number : Nat) : List (List Char) → List (List Char)
  | [] => []
  | line :: rest =>
    (if (r.shape line).isExempt || r.continuesAt line then [] else [line]) ++
      (r.read number line).starts (number + 1) rest

/-- The indentation of the statement behind some lines: that of the last line that starts one. -/
def statementIndent (r : Reading) (tab base number : Nat) (ls : List (List Char)) : Nat :=
  ((r.starts number ls).getLast?.map fun line =>
    LineShape.columns tab (line.takeWhile isMarginChar)).getD base

theorem statementIndent_cons (r : Reading) (tab base number : Nat) (line : List Char)
    (rest : List (List Char)) :
    r.statementIndent tab base number (line :: rest) =
      (r.read number line).statementIndent tab (r.baseBehind tab base line) (number + 1) rest := by
  rw [statementIndent, statementIndent, starts, List.getLast?_append, baseBehind]
  cases ((r.read number line).starts (number + 1) rest).getLast? with
  | some last => rfl
  | none =>
      split
      · rfl
      · rfl

theorem statementIndent_append (r : Reading) (tab base number : Nat) (ls ls' : List (List Char)) :
    r.statementIndent tab base number (ls ++ ls') =
      (r.run number ls).statementIndent tab (r.statementIndent tab base number ls)
        (number + ls.length) ls' := by
  induction ls generalizing r base number with
  | nil => rfl
  | cons line rest ih =>
      rw [List.cons_append, statementIndent_cons, ih, statementIndent_cons, run, List.length_cons,
        Nat.add_right_comm, Nat.add_assoc]

/-- Judging lines in two parts, the second from what is held behind the first. -/
theorem checkFrom_append (s : Settings) (r : Reading) (base number : Nat)
    (ls ls' : List (List Char)) :
    checkFrom s r.depth r.previous base number (ls ++ ls') =
      checkFrom s r.depth r.previous base number ls ++
        checkFrom s (r.run number ls).depth (r.run number ls).previous
          (r.statementIndent s.tabWidth base number ls) (number + ls.length) ls' := by
  induction ls generalizing r base number with
  | nil => rfl
  | cons line rest ih =>
      rw [List.cons_append, checkFrom_cons, checkFrom_cons, ih, List.append_assoc, run,
        statementIndent_cons, List.length_cons, Nat.add_right_comm, Nat.add_assoc]

/-! ## What a reading knows -/

theorem depth_read (r : Reading) (number : Nat) {line : List Char} (hn : '\n' ∉ line) (tab : Nat)
    (p : Position) :
    (r.read number line).depth = depthBehind (Lexer.content tab p line) r.depth := by
  rw [← depthAfter_ofLine hn, read]
  split
  case isTrue hexempt => exact (depthAfter_of_isExempt hexempt).symm
  case isFalse => rfl

/-- The bracket depth is that behind the tokens of the lines. -/
theorem depth_run (r : Reading) (number : Nat) {ls : List (List Char)} (hn : ∀ l ∈ ls, '\n' ∉ l)
    (tab : Nat) :
    (r.run number ls).depth = depthBehind (Lexer.scanEnded tab number ls) r.depth := by
  induction ls generalizing r number with
  | nil => rfl
  | cons line rest ih =>
      obtain ⟨hline, hrest⟩ := List.forall_mem_cons.1 hn
      have hend (depth : Nat) : (Lexer.lineEnd tab number line false).depthAfter depth = depth :=
        depthAfter_of_not_isCode rfl depth
      rw [run, ih _ _ hrest, Lexer.scanEnded, depthBehind_append, depthBehind_cons, hend,
        depth_read r number hline]

theorem read_silent (r : Reading) (number : Nat) {line : List Char} (hn : '\n' ∉ line) {tab : Nat}
    {p : Position} (h : ∀ t ∈ Lexer.content tab p line, t.isCode = false) :
    r.read number line = r :=
  if_pos (isExempt_of_silent hn h r.depth)

/-- Without code tokens there is no line with code. -/
theorem run_silent (r : Reading) (number : Nat) {ls : List (List Char)} (hn : ∀ l ∈ ls, '\n' ∉ l)
    {tab : Nat} (h : ∀ t ∈ Lexer.scanEnded tab number ls, t.isCode = false) :
    r.run number ls = r := by
  induction ls generalizing number with
  | nil => rfl
  | cons line rest ih =>
      obtain ⟨hline, hrest⟩ := List.forall_mem_cons.1 hn
      rw [Lexer.scanEnded] at h
      rw [run, read_silent r number hline fun t ht => h t (List.mem_append_left _ ht)]
      exact ih (number + 1) hrest fun t ht =>
        h t (List.mem_append_right _ (List.mem_cons_of_mem _ ht))

theorem exists_append_of_getLast?_filter {p : Token → Bool} {ts : List Token} {t : Token}
    (h : (ts.filter p).getLast? = some t) :
    ∃ front back, ts = front ++ t :: back ∧ ∀ u ∈ back, p u = false := by
  induction ts using List.reverseRecOn with
  | nil => simp at h
  | append_singleton ts u ih =>
      rw [List.filter_append] at h
      cases hu : p u with
      | true =>
          rw [List.filter_cons_of_pos hu, List.filter_nil, List.getLast?_concat,
            Option.some.injEq] at h
          exact ⟨ts, [], by rw [h], by simp⟩
      | false =>
          rw [List.filter_cons_of_neg (by simp [hu]), List.filter_nil, List.append_nil] at h
          obtain ⟨front, back, rfl, hback⟩ := ih h
          refine ⟨front, back ++ [u], by simp, ?_⟩
          intro v hv
          rcases List.mem_append.1 hv with hv | hv
          · exact hback v hv
          · rw [List.mem_singleton.1 hv, hu]

/-- The last line with code is the line of the last code token, unless that is made of blanks. -/
theorem previous_run (r : Reading) (number : Nat) {ls : List (List Char)} (hn : ∀ l ∈ ls, '\n' ∉ l)
    {tab : Nat} {t : Token}
    (ht : ((Lexer.scanEnded tab number ls).filter (·.isCode)).getLast? = some t)
    (hblank : t.isBlank = false) :
    ∃ before line after depth front back, ls = before ++ line :: after ∧
      Lexer.content tab ⟨number + before.length, 1⟩ line = front ++ t :: back ∧
      (∀ u ∈ back, u.isCode = false) ∧
      (r.run number ls).previous = some ⟨number + before.length, .ofLine depth line⟩ := by
  induction ls using List.reverseRecOn with
  | nil => simp [Lexer.scanEnded] at ht
  | append_singleton ls line ih =>
      have hline : '\n' ∉ line := hn line (by simp)
      have hend : (Lexer.lineEnd tab (number + ls.length) line false).isCode = false := rfl
      rw [Lexer.scanEnded_append, Lexer.scanEnded, Lexer.scanEnded, List.filter_append,
        List.filter_append, List.filter_cons_of_neg (by simp [hend]), List.filter_nil,
        List.append_nil] at ht
      rw [run_append, run, run]
      by_cases hsilent : ∀ u ∈ Lexer.content tab ⟨number + ls.length, 1⟩ line, u.isCode = false
      · have hnil : (Lexer.content tab ⟨number + ls.length, 1⟩ line).filter (·.isCode) = [] := by
          simpa [List.filter_eq_nil_iff] using hsilent
        rw [hnil, List.append_nil] at ht
        rw [read_silent _ _ hline hsilent]
        obtain ⟨before, line', after, depth, front, back, rfl, hrest⟩ :=
          ih (fun l hl => hn l (List.mem_append_left _ hl)) ht
        exact ⟨before, line', after ++ [line], depth, front, back, by simp, hrest⟩
      · have hne : (Lexer.content tab ⟨number + ls.length, 1⟩ line).filter (·.isCode) ≠ [] := by
          simpa [List.filter_eq_nil_iff] using hsilent
        rw [List.getLast?_append_of_ne_nil _ hne] at ht
        obtain ⟨front, back, hcontent, hback⟩ := exists_append_of_getLast?_filter ht
        have hmem : t ∈ Lexer.content tab ⟨number + ls.length, 1⟩ line := by simp [hcontent]
        have hcode : t.isCode = true := (List.mem_filter.1 (List.mem_of_getLast? ht)).2
        refine ⟨ls, line, [], (r.run number ls).depth, front, back, rfl, hcontent, hback, ?_⟩
        rw [read, if_neg]
        · rfl
        · exact Bool.eq_false_iff.1 (isExempt_eq_false hline hmem hcode hblank _)

end Reading

end Layout

end ChartLint
