import ChartLint.Outline
import ChartLint.Proofs.LineCode

/-!
# Reading statements token by token

Statements are cut out of the tokens in one walk.  The walk is told here as a run: what is known in
front of a token, a *reading*, says whether a statement starts there (`startsAt`), and reading the
token gives what is known behind it (`read`).

*Starts.*  The first tokens of the statements are the tokens at which the run starts one
(`map_first_segment`).  So whether a token starts a statement is decided by the tokens in front of it.

*Invariant.*  A reading knows the last code token, the bracket depth and the first token of the
statement that is being read (`tracks_run`).  The depth is counted from the start of the script: a
statement ends only where no bracket is open.
-/

namespace ChartLint

namespace Statement

/-- What is known behind some code tokens: the statement being read, and whether a line ended since
its last token. -/
structure Reading where
  /-- The statement being read. -/
  progress : Progress
  /-- Did a line end? -/
  broken : Bool

/-- Does a statement start at the token? -/
def startsAt (r : Option Reading) (t : Lexeme) : Bool :=
  t.isCode && r.all fun x => x.broken && x.progress.endsBefore t

/-- What is known behind one more token. -/
def read (r : Option Reading) (t : Lexeme) : Option Reading :=
  if t.isCode then
    if startsAt r t then some ⟨.start t, false⟩ else r.map fun x => ⟨x.progress.push t, false⟩
  else r.map fun x => ⟨x.progress, x.broken || t.kind != .comment⟩

/-- What is known behind some tokens. -/
def run (r : Option Reading) (ts : List Lexeme) : Option Reading :=
  ts.foldl read r

/-- The tokens at which statements start. -/
def starts (r : Option Reading) : List Lexeme → List Lexeme
  | [] => []
  | t :: ts => if startsAt r t then t :: starts (read r t) ts else starts (read r t) ts

@[simp] theorem run_nil (r : Option Reading) : run r [] = r := rfl

@[simp] theorem run_cons (r : Option Reading) (t : Lexeme) (ts : List Lexeme) :
    run r (t :: ts) = run (read r t) ts := rfl

theorem run_concat (r : Option Reading) (ts : List Lexeme) (t : Lexeme) :
    run r (ts ++ [t]) = read (run r ts) t := by
  rw [run, List.foldl_append]
  rfl

theorem starts_append (r : Option Reading) (ts us : List Lexeme) :
    starts r (ts ++ us) = starts r ts ++ starts (run r ts) us := by
  induction ts generalizing r with
  | nil => rfl
  | cons t ts ih =>
      rw [List.cons_append, starts, starts, ih, run_cons]
      split
      · rfl
      · rfl

theorem mem_of_mem_starts {r : Option Reading} {ts : List Lexeme} {t : Lexeme}
    (h : t ∈ starts r ts) : t ∈ ts := by
  induction ts generalizing r with
  | nil => exact h
  | cons u ts ih =>
      rw [starts] at h
      split at h
      · rcases List.mem_cons.1 h with rfl | h
        · exact List.mem_cons_self
        · exact List.mem_cons_of_mem u (ih h)
      · exact List.mem_cons_of_mem u (ih h)

/-- A token that stands once among the tokens is a start if the run starts a statement there. -/
theorem mem_starts_iff {front back : List Lexeme} {t : Lexeme} (h : (front ++ t :: back).Nodup) :
    t ∈ starts none (front ++ t :: back) ↔ startsAt (run none front) t = true := by
  obtain ⟨-, hback, hfront⟩ := List.nodup_append.1 h
  have hnotfront : t ∉ starts none front := by
    intro ht
    exact hfront t (mem_of_mem_starts ht) t List.mem_cons_self rfl
  have hnotback (r : Option Reading) : t ∉ starts r back := by
    intro ht
    exact (List.nodup_cons.1 hback).1 (mem_of_mem_starts ht)
  rw [starts_append, List.mem_append, starts]
  split
  case isTrue hstart => simp [hstart]
  case isFalse hstart => simp [hstart, hnotfront, hnotback]

/-! ## The run and the walk -/

/-- The statements behind the one being read start where the run starts one. -/
theorem map_first_segmentFrom (p : Progress) (broken : Bool) (ts : List Lexeme) :
    (segmentFrom p broken ts).2.map first = starts (some ⟨p, broken⟩) ts := by
  fun_induction segmentFrom p broken ts with
  | case1 p broken => rfl
  | case2 p broken t ts hcode hends rest more hrest ih =>
      rw [hrest] at ih
      have hstarts : startsAt (some ⟨p, broken⟩) t = true := by
        simpa [startsAt, hcode] using hends
      rw [starts, if_pos hstarts, read, if_pos hcode, if_pos hstarts, List.map_cons, ih]
  | case3 p broken t ts hcode hends rest more hrest ih =>
      rw [hrest] at ih
      have hstarts : ¬ startsAt (some ⟨p, broken⟩) t = true := by
        simpa [startsAt, hcode] using hends
      rw [starts, if_neg hstarts, read, if_pos hcode, if_neg hstarts]
      exact ih
  | case4 p broken t ts hcode ih =>
      have hstarts : ¬ startsAt (some ⟨p, broken⟩) t = true := by simp [startsAt, hcode]
      rw [starts, if_neg hstarts, read, if_neg hcode]
      exact ih

/-- The first tokens of the statements are the tokens at which the run starts one. -/
theorem map_first_segment (ts : List Lexeme) : (segment ts).map first = starts none ts := by
  induction ts with
  | nil => rfl
  | cons t ts ih =>
      rw [segment, starts]
      cases hcode : t.isCode with
      | true =>
          have hstarts : startsAt none t = true := by simp [startsAt, hcode]
          rw [if_pos hstarts, read, if_pos hcode, if_pos hstarts, ← map_first_segmentFrom]
          rfl
      | false =>
          have hstarts : ¬ startsAt none t = true := by simp [startsAt, hcode]
          have hread : read none t = none := by simp [read, hcode]
          rw [if_neg hstarts, hread]
          exact ih

/-! ## What a reading knows -/

/-- The last code token. -/
def lastCode? (ts : List Lexeme) : Option Lexeme :=
  (ts.filter (·.isCode)).getLast?

/-- A reading knows the last code token, the bracket depth and the first token of the statement. -/
def Tracks (r : Option Reading) (ts : List Lexeme) : Prop :=
  r.map (·.progress.last) = lastCode? ts ∧
  r.map (·.progress.first) = (starts none ts).getLast? ∧
  (r.map (·.progress.depth)).getD 0 = depthBehind (ts.map (·.toToken)) 0

theorem Tracks.read {r : Option Reading} {ts : List Lexeme} (hr : r = run none ts)
    (h : Tracks r ts) (t : Lexeme) : Tracks (read r t) (ts ++ [t]) := by
  obtain ⟨hlast, hfirst, hdepth⟩ := h
  have hstarts : Statement.starts none (ts ++ [t]) =
      Statement.starts none ts ++ if startsAt r t then [t] else [] := by
    rw [starts_append, ← hr]
    rfl
  rw [Tracks, hstarts, List.map_append, List.map_singleton, depthBehind_append, ← hdepth, lastCode?,
    List.filter_append, Statement.read, depthBehind_cons, depthBehind_nil]
  cases hcode : t.isCode with
  | false =>
      have hno : startsAt r t = false := by simp [startsAt, hcode]
      simp only [hno, List.filter_cons, hcode, if_false, Bool.false_eq_true, List.filter_nil,
        List.append_nil, Option.map_map, Function.comp_def, depthAfter_of_not_isCode hcode]
      exact ⟨hlast, hfirst, trivial⟩
  | true =>
      simp only [List.filter_cons, hcode, if_true, List.filter_nil, List.getLast?_concat]
      cases hstart : startsAt r t with
      | true =>
          -- A statement ends only at depth zero, so counting may start anew.
          have hzero : (r.map (·.progress.depth)).getD 0 = 0 := by
            cases r with
            | none => rfl
            | some x =>
                simp only [startsAt, hcode, Option.all_some, Progress.endsBefore, Bool.true_and,
                  Bool.and_eq_true, beq_iff_eq] at hstart
                exact hstart.2.1.1
          rw [hzero]
          simp [Progress.start]
      | false =>
          obtain ⟨x, rfl⟩ : ∃ x, r = some x := by
            cases r with
            | none => simp [startsAt, hcode] at hstart
            | some x => exact ⟨x, rfl⟩
          simpa [Progress.push] using hfirst

/-- A run keeps track of the tokens it reads. -/
theorem tracks_run (ts : List Lexeme) : Tracks (run none ts) ts := by
  induction ts using List.reverseRecOn with
  | nil => exact ⟨rfl, rfl, rfl⟩
  | append_singleton ts t ih =>
      rw [run_concat]
      exact ih.read rfl t

/-- Behind a line end the reading knows of it. -/
theorem broken_run {ts : List Lexeme} {e : Lexeme} (he : e.kind = .newline) {x : Reading}
    (h : run none (ts ++ [e]) = some x) : x.broken = true := by
  have hcode : e.isCode = false := by simp [Token.isCode, he]
  rw [run_concat, read, if_neg (by simp [hcode])] at h
  obtain ⟨y, -, rfl⟩ := Option.map_eq_some_iff.1 h
  simp [he]

end Statement

end ChartLint
