import ChartLint.Proofs.FindingOrder
import ChartLint.Proofs.LineLayout
import ChartLint.Proofs.Renumbering.Rules
import ChartLint.Proofs.StatementPass

/-!
# A suppression comment removes what it names

A comment `// noqa: …` is put behind the code of a line, with the ids or categories of some rules in
any case of their letters.  Then the findings of a script are those it had before, without the ones on
that line that the comment names.

*Names.*  The comment is read as a directive for just these names (`ofComment?_suppression`), and it
covers a category if one of them is its id or its name (`covers_suppression`).

*Tokens.*  The comment is one more token, and the line end behind it stands further right.  The code
in front of it and the tokens on other lines are the same, so the script has the same code under new
numbers (`commentInserted_scanLines`, `CommentInserted.exists_matches`).
-/

namespace ChartLint

/-! ## Letters and their case -/

theorem isAlphanum_of_toLower {c : Char} (h : c.toLower.isAlphanum = true) :
    c.isAlphanum = true := by
  delta Char.toLower at h
  split at h
  case isTrue hc =>
    have hupper : c.isUpper = true := by
      delta Char.isUpper
      simpa using hc
    change (c.isUpper || c.isLower || c.isDigit) = true
    rw [hupper, Bool.true_or, Bool.true_or]
  case isFalse => exact h

/-- Two English letters have the same upper case if they have the same lower case. -/
theorem toUpper_eq_iff {a b : Char} (ha : a.toNat < 128) (hb : b.toNat < 128) :
    a.toUpper = b.toUpper ↔ a.toLower = b.toLower := by
  have hupper : ∀ c : Char, c.toNat < 128 → c.toLower.toUpper = c.toUpper :=
    fun c hc => Lexer.forall_ascii (P := fun c => c.toLower.toUpper = c.toUpper) (by decide +kernel) hc
  have hlower : ∀ c : Char, c.toNat < 128 → c.toUpper.toLower = c.toLower :=
    fun c hc => Lexer.forall_ascii (P := fun c => c.toUpper.toLower = c.toLower) (by decide +kernel) hc
  constructor
  · intro h
    rw [← hlower a ha, ← hlower b hb, h]
  · intro h
    rw [← hupper a ha, ← hupper b hb, h]

theorem isBlank_of_isAlphanum {c : Char} (h : c.isAlphanum = true) : Text.isBlank c = false :=
  Lexer.forall_ascii (P := fun c => c.isAlphanum = true → Text.isBlank c = false) (by decide +kernel)
    (Lexer.toNat_lt_of_isAlphanum h) h

/-- A text of English letters and digits, with at least one. -/
def IsPlainName (name : String) : Prop :=
  name ≠ "" ∧ ∀ c ∈ name.toList, c.isAlphanum = true

instance (name : String) : Decidable (IsPlainName name) :=
  inferInstanceAs (Decidable (name ≠ "" ∧ ∀ c ∈ name.toList, c.isAlphanum = true))

theorem uppercase_eq_map {name : String} (h : IsPlainName name) :
    Text.uppercase name = String.ofList (name.toList.map Char.toUpper) := by
  have hupper : name.toList.flatMap Text.upperChar = name.toList.flatMap fun c => [c.toUpper] := by
    refine List.flatMap_congr fun c hc => ?_
    rw [Text.upperChar, if_pos (Lexer.toNat_lt_of_isAlphanum (h.2 c hc))]
  rw [Text.uppercase, hupper, List.map_eq_flatMap]

/-- Plain names have the same upper case if they differ in the case of their letters alone. -/
theorem uppercase_eq_iff {a b : String} (ha : IsPlainName a) (hb : IsPlainName b) :
    Text.uppercase a = Text.uppercase b ↔ Text.equalIgnoringCase a b = true := by
  have hmap : ∀ cs ds : List Char, (∀ c ∈ cs, c.isAlphanum = true) →
      (∀ d ∈ ds, d.isAlphanum = true) →
      (cs.map Char.toUpper = ds.map Char.toUpper ↔ cs.map Char.toLower = ds.map Char.toLower) := by
    intro cs
    induction cs with
    | nil => intro ds _ _; cases ds <;> simp
    | cons c cs ih =>
        intro ds hcs hds
        cases ds with
        | nil => simp
        | cons d ds =>
            obtain ⟨hc, hcs⟩ := List.forall_mem_cons.1 hcs
            obtain ⟨hd, hds⟩ := List.forall_mem_cons.1 hds
            rw [List.map_cons, List.map_cons, List.map_cons, List.map_cons, List.cons.injEq,
              List.cons.injEq, ih ds hcs hds,
              toUpper_eq_iff (Lexer.toNat_lt_of_isAlphanum hc) (Lexer.toNat_lt_of_isAlphanum hd)]
  rw [uppercase_eq_map ha, uppercase_eq_map hb, String.ofList_inj, hmap _ _ ha.2 hb.2,
    Text.equalIgnoringCase, beq_iff_eq]

/-! ## The names in a comment -/

/-- Is the text the id or the name of the category, in any case of its letters? -/
def Category.isNamedBy (c : Category) (name : String) : Bool :=
  Text.equalIgnoringCase name c.ruleId || Text.equalIgnoringCase name c.name

theorem Category.isPlainName (c : Category) : IsPlainName c.ruleId ∧ IsPlainName c.name := by
  refine ⟨⟨?_, Lexer.forall_mem_of_all ?_⟩, ⟨?_, Lexer.forall_mem_of_all ?_⟩⟩ <;>
    cases c <;> decide +kernel

/-- A text is plain if it equals a plain one but for the case of its letters. -/
theorem IsPlainName.of_equalIgnoringCase {a b : String} (hb : IsPlainName b)
    (h : Text.equalIgnoringCase a b = true) : IsPlainName a := by
  rw [Text.equalIgnoringCase, beq_iff_eq] at h
  refine ⟨?_, fun c hc => isAlphanum_of_toLower ?_⟩
  · rintro rfl
    exact hb.1 (by simpa using h.symm)
  · have hmem : c.toLower ∈ b.toList.map Char.toLower := h ▸ List.mem_map_of_mem hc
    obtain ⟨d, hd, hcd⟩ := List.mem_map.1 hmem
    rw [← hcd]
    exact Lexer.forall_ascii (P := fun d => d.isAlphanum = true → d.toLower.isAlphanum = true)
      (by decide +kernel) (Lexer.toNat_lt_of_isAlphanum (hb.2 d hd)) (hb.2 d hd)

theorem Category.isPlainName_of_isNamedBy {c : Category} {name : String}
    (h : c.isNamedBy name = true) : IsPlainName name := by
  rw [isNamedBy, Bool.or_eq_true] at h
  rcases h with h | h
  · exact c.isPlainName.1.of_equalIgnoringCase h
  · exact c.isPlainName.2.of_equalIgnoringCase h

/-- The text that a suppression comment adds to a line. -/
def suppressionSuffix (names : List String) : String :=
  " // noqa: " ++ ", ".intercalate names

theorem trimChars_blank {cs : List Char} (h : ∀ c ∈ cs, Text.isBlank c = false) :
    Text.trimChars (' ' :: cs) = cs := by
  have hdrop (ds : List Char) (hds : ∀ c ∈ ds, Text.isBlank c = false) :
      ds.dropWhile Text.isBlank = ds := by
    cases ds with
    | nil => rfl
    | cons d ds => simp [hds d List.mem_cons_self]
  have hspace : Text.isBlank ' ' = true := isBlank_of_isGap rfl
  rw [Text.trimChars, List.dropWhile_cons_of_pos hspace, hdrop cs h, Text.trimRight,
    hdrop cs.reverse (by simpa using h), List.reverse_reverse]

/-- A blank behind each comma and one in front is a blank in front of each piece. -/
theorem cons_intercalate {ls : List (List Char)} (h : ls ≠ []) :
    ' ' :: [',', ' '].intercalate ls = [','].intercalate (ls.map (' ' :: ·)) := by
  induction ls with
  | nil => exact absurd rfl h
  | cons l ls ih =>
      cases ls with
      | nil => simp
      | cons next ls =>
          have ih := ih (by simp)
          rw [List.map_cons, List.map_cons] at *
          rw [List.intercalate_cons_cons, List.intercalate_cons_cons, ← ih]
          simp

theorem mem_intercalate {separator : List Char} {c : Char} {ls : List (List Char)}
    (h : c ∈ separator.intercalate ls) : c ∈ separator ∨ ∃ l ∈ ls, c ∈ l := by
  induction ls with
  | nil => simp at h
  | cons l ls ih =>
      cases ls with
      | nil => exact Or.inr ⟨l, List.mem_cons_self, by simpa using h⟩
      | cons next ls =>
          rw [List.intercalate_cons_cons, List.mem_append, List.mem_append] at h
          rcases h with (h | h) | h
          · exact Or.inr ⟨l, List.mem_cons_self, h⟩
          · exact Or.inl h
          · exact (ih h).imp_right fun ⟨l', hl', hc⟩ => ⟨l', List.mem_cons_of_mem _ hl', hc⟩

/-- The names of a list are read back in upper case. -/
theorem listedNames_intercalate {names : List String} (hne : names ≠ [])
    (h : ∀ name ∈ names, IsPlainName name) :
    Directive.listedNames (' ' :: [',', ' '].intercalate (names.map String.toList)) =
      names.map Text.uppercase := by
  have hpiece : ∀ l ∈ (names.map String.toList).map (' ' :: ·), ∀ c ∈ l,
      c = ' ' ∨ c.isAlphanum = true := by
    intro l hl c hc
    simp only [List.map_map, List.mem_map, Function.comp_apply] at hl
    obtain ⟨name, hname, rfl⟩ := hl
    exact (List.mem_cons.1 hc).imp_right ((h name hname).2 c)
  have hlist : ∀ c ∈ [','].intercalate ((names.map String.toList).map (' ' :: ·)),
      Directive.isListChar c = true := by
    intro c hc
    rcases mem_intercalate hc with hc | ⟨l, hl, hc⟩
    · rw [List.mem_singleton.1 hc]
      rfl
    · rcases hpiece l hl c hc with rfl | hc
      · rw [Directive.isListChar, isBlank_of_isGap rfl, Bool.or_true]
      · simp [Directive.isListChar, hc]
  have hcomma : ∀ l ∈ (names.map String.toList).map (' ' :: ·), ',' ∉ l := by
    intro l hl hc
    rcases hpiece l hl ',' hc with hc | hc
    · cases hc
    · cases hc
  have hnames : ((names.map String.toList).map (' ' :: ·)).map
      (fun piece => Text.uppercase (String.ofList (Text.trimChars piece))) =
        names.map Text.uppercase := by
    rw [List.map_map, List.map_map]
    refine List.map_congr_left fun name hname => ?_
    simp only [Function.comp_apply]
    rw [trimChars_blank fun c hc => isBlank_of_isAlphanum ((h name hname).2 c hc),
      String.ofList_toList]
  rw [Directive.listedNames, cons_intercalate (by simpa using hne),
    List.takeWhile_eq_self_iff.2 hlist, Text.splitAt_intercalate ',' hcomma (by simpa using hne),
    hnames, List.filter_eq_self]
  intro upper hupper
  obtain ⟨name, hname, rfl⟩ := List.mem_map.1 hupper
  rw [uppercase_eq_map (h name hname)]
  simpa using (h name hname).1

/-- The comment is read as a directive for its names. -/
theorem ofComment?_suppression {names : List String} (hne : names ≠ [])
    (h : ∀ name ∈ names, IsPlainName name) :
    Directive.ofComment? ("// noqa: " ++ ", ".intercalate names) =
      some (.only (.ofList (names.map Text.uppercase))) := by
  have htext : ("// noqa: " ++ ", ".intercalate names).toList =
      '/' :: '/' :: ' ' :: 'n' :: 'o' :: 'q' :: 'a' :: ':' ::
        (' ' :: [',', ' '].intercalate (names.map String.toList)) := by
    rw [String.toList_append, String.toList_intercalate]
    rfl
  have hspace : Text.isBlank ' ' = true := isBlank_of_isGap rfl
  have hn : Text.isBlank 'n' = false := isBlank_of_isAlphanum rfl
  have hcolon : Text.isBlank ':' = false := by decide +kernel
  rw [Directive.ofComment?, htext]
  simp only [List.dropWhile_cons_of_pos hspace]
  rw [List.dropWhile_cons_of_neg (by simp [hn])]
  simp only [Directive.ofTail]
  rw [List.dropWhile_cons_of_neg (by simp [hcolon])]
  simp [listedNames_intercalate hne h, hne]

/-- The directive covers a category if one of the names is its id or its name. -/
theorem covers_suppression {names : List String} (h : ∀ name ∈ names, IsPlainName name)
    (c : Category) :
    let directive := Directive.only (.ofList (names.map Text.uppercase))
    (directive.covers c.ruleId || directive.covers c.name) = names.any c.isNamedBy := by
  have hcovers {text : String} (htext : IsPlainName text) :
      (NameSet.ofList (names.map Text.uppercase)).contains (Text.uppercase text) =
        names.any (Text.equalIgnoringCase · text) := by
    rw [Bool.eq_iff_iff, NameSet.contains_iff, NameSet.mem_ofList, List.mem_map, List.any_eq_true]
    refine exists_congr fun name => and_congr_right fun hname => ?_
    exact uppercase_eq_iff (h name hname) htext
  simp only [Directive.covers, hcovers c.isPlainName.1, hcovers c.isPlainName.2]
  rw [Bool.eq_iff_iff]
  simp only [Category.isNamedBy, Bool.or_eq_true, List.any_eq_true, and_or_left, exists_or]

/-! ## The tokens of the script with the comment -/

/-- A script with some text put at the end of a line, in front of its line feed. -/
def insertAtLineEnd (source : String) (number : Nat) (text : String) : String :=
  String.ofList (['\n'].intercalate
    ((Text.splitAt '\n' source.toList).modify (number - 1) (· ++ text.toList)))

/-- A comment is the only token from its slashes on. -/
theorem content_slashes (tab : Nat) (p : Position) {text : List Char} (h : '\n' ∉ text) :
    Lexer.content tab p ('/' :: '/' :: text) =
      [⟨.comment, String.ofList ('/' :: '/' :: text), p⟩] := by
  have hkind : (Lexer.shape '/' ('/' :: text)).kind = .comment := rfl
  have hextent : (Lexer.shape '/' ('/' :: text)).extent = ('/' :: text).length :=
    Lexer.extent_of_not_isComplete (fun hc => hc.1 hkind) (by simpa using h)
  rw [Lexer.content_token tab p rfl, hextent, hkind, List.take_length, List.drop_length,
    Lexer.content_nil]

/-- A comment behind a blank is the only token of its line. -/
theorem content_comment (tab : Nat) (p : Position) {text : List Char} (h : '\n' ∉ text) :
    Lexer.content tab p (' ' :: '/' :: '/' :: text) =
      [⟨.comment, String.ofList ('/' :: '/' :: text), p.step tab ' '⟩] := by
  rw [Lexer.content_gap tab p rfl, content_slashes tab _ h]

/-- Tokens with one more comment in front of a line end, which may stand elsewhere afterwards. -/
inductive CommentInserted (comment : Token) : List Token → List Token → Prop
  /-- The comment stands between `front` and the line end. -/
  | intro (front back : List Token) {e e' : Token} (hcomment : comment.kind = .comment)
      (hend : e.kind = .newline ∨ e.kind = .endOfInput) (hkind : e'.kind = e.kind) :
      CommentInserted comment (front ++ e :: back) (front ++ comment :: e' :: back)

/-- A comment behind whole tokens of a line is put into the tokens of the script. -/
theorem commentInserted_scanLines {tab : Nat} (number : Nat) {before : List (List Char)}
    (after : List (List Char)) {line text : List Char}
    (hwhole : ∀ t ∈ Lexer.content tab ⟨number + before.length, 1⟩ line, t.IsWhole)
    (hline : '\n' ∉ line) (htext : '\n' ∉ text) :
    ∃ comment : Token, comment.text = String.ofList ('/' :: '/' :: text) ∧
      comment.position.line = number + before.length ∧
      CommentInserted comment (Lexer.scanLines tab number (before ++ line :: after))
        (Lexer.scanLines tab number (before ++ (line ++ ' ' :: '/' :: '/' :: text) :: after)) := by
  refine ⟨⟨.comment, String.ofList ('/' :: '/' :: text),
    (Position.advance tab ⟨number + before.length, 1⟩ line).step tab ' '⟩, rfl, ?_, ?_⟩
  · rw [Position.step, if_neg (by decide)]
    exact Lexer.line_advance tab _ hline
  · rw [Lexer.scanLines_append tab number before (List.cons_ne_nil _ _),
      Lexer.scanLines_append tab number before (List.cons_ne_nil _ _), Lexer.scanLines,
      Lexer.scanLines, Lexer.content_append (Or.inr rfl) (Or.inr hwhole), content_comment tab _ htext,
      List.append_assoc, ← List.append_assoc (Lexer.scanEnded _ _ _),
      ← List.append_assoc (Lexer.scanEnded _ _ _)]
    refine .intro _ _ rfl ?_ rfl
    cases after <;> simp [Lexer.lineEnd]

/-! ## New numbers -/

/-- Leave out the number `k`. -/
def Renumbering.skip (k : Nat) : Renumbering where
  number i := if i < k then i else i + 1
  strictMono := by
    intro i j h
    dsimp only
    split <;> split <;> omega

/-- Tokens that are counted from elsewhere have the same code. -/
theorem sameCode_numberFrom {f : Renumbering} (tokens : List Token) {start start' : Nat}
    (h : ∀ i < tokens.length, f (start + i) = start' + i) :
    SameCode f (numberFrom start tokens) (numberFrom start' tokens) := by
  induction tokens generalizing start start' with
  | nil => exact .nil
  | cons t ts ih =>
      have hhead : f start = start' := by simpa using h 0 (by simp)
      have htail : ∀ i < ts.length, f (start + 1 + i) = start' + 1 + i := by
        intro i hi
        have := h (i + 1) (by simpa using hi)
        rw [Nat.add_right_comm, Nat.add_right_comm start']
        exact this
      rw [numberFrom_cons, numberFrom_cons]
      cases hcode : t.isCode with
      | true =>
          have hrenumber : ({ t with index := start' } : Lexeme) =
              Lexeme.renumber f { t with index := start } := by
            rw [Lexeme.renumber, hhead]
          rw [hrenumber]
          exact .code hcode (ih htail)
      | false => exact .silent hcode rfl hhead.symm (ih htail)

theorem SameCode.append {f : Renumbering} {ts us ts' us' : List Lexeme} (h : SameCode f ts us)
    (h' : SameCode f ts' us') : SameCode f (ts ++ ts') (us ++ us') := by
  induction h with
  | nil => exact h'
  | code ht _ ih => exact .code ht ih
  | silent ht hkind hindex _ ih => exact .silent ht hkind hindex ih
  | comment hu hindex _ ih => exact .comment hu hindex ih

namespace CommentInserted

variable {comment : Token} {ts us : List Token}

/-- The reader puts the comment at the position that a word can hold, as it does with all tokens. -/
theorem map_wrap (h : CommentInserted comment ts us) :
    CommentInserted comment.wrap (ts.map Token.wrap) (us.map Token.wrap) := by
  obtain ⟨front, back, hcomment, hend, hkind⟩ := h
  rw [List.map_append, List.map_append]
  exact .intro _ _ hcomment hend hkind

/-- One more comment leaves the outline as it is, under new numbers. -/
theorem exists_matches (h : CommentInserted comment ts us) :
    ∃ f, Outline.Matches f (.ofTokens (numberTokens ts)) (.ofTokens (numberTokens us)) := by
  obtain ⟨front, back, hcomment, hend, hkind⟩ := h
  rename_i e e'
  refine ⟨.skip front.length, Outline.matches_ofTokens ?_ ?_⟩
  · have hfront : SameCode (.skip front.length) (numberFrom 0 front) (numberFrom 0 front) := by
      refine sameCode_numberFrom front fun i hi => ?_
      simp [Renumbering.skip, hi]
    have hback : SameCode (.skip front.length) (numberFrom (front.length + 1) back)
        (numberFrom (front.length + 1 + 1) back) := by
      refine sameCode_numberFrom back fun i hi => ?_
      simp only [Renumbering.skip]
      rw [if_neg (by omega)]
      omega
    have hcode : e.isCode = false := by rcases hend with h | h <;> rw [Token.isCode, h]
    change SameCode _ (numberFrom 0 _) (numberFrom 0 _)
    rw [numberFrom_append, numberFrom_append, numberFrom_cons, numberFrom_cons, numberFrom_cons,
      Nat.zero_add]
    refine hfront.append (.comment hcomment (fun i => ?_) (.silent hcode hkind ?_ hback))
    · simp only [Renumbering.skip]
      split <;> omega
    · simp [Renumbering.skip]
  · simp only [numberTokens, List.length_map, List.length_zipIdx, List.length_append,
      List.length_cons, Renumbering.skip]
    rw [if_neg (by omega)]
    omega

theorem suppresses_eq (h : CommentInserted comment ts us) {directive : Directive}
    (hdirective : Directive.ofComment? comment.text = some directive) (d : Diagnostic) :
    (Suppressions.ofTokens us).suppresses d =
      ((Suppressions.ofTokens ts).suppresses d || (d.position.line == comment.position.line &&
        (directive.covers d.ruleId || directive.covers d.category.name))) := by
  obtain ⟨front, back, hcomment, hend, hkind⟩ := h
  rename_i e e'
  have hnot : (e.kind == .comment) = false ∧ (e'.kind == .comment) = false := by
    rw [hkind]
    rcases hend with h | h <;> rw [h] <;> decide
  have hsuppressed (name : String) :
      (Suppressions.ofTokens (front ++ comment :: e' :: back)).isSuppressed d.position.line name =
        ((Suppressions.ofTokens (front ++ e :: back)).isSuppressed d.position.line name ||
          (d.position.line == comment.position.line && directive.covers name)) := by
    simp only [Suppressions.isSuppressed, Suppressions.ofTokens, List.filterMap_append,
      List.filterMap_cons, hcomment, hnot.1, hnot.2, beq_self_eq_true, if_true, hdirective,
      Option.map_some, Bool.false_eq_true, if_false, List.any_append, List.any_cons]
    rw [BEq.comm (a := comment.position.line), Bool.or_left_comm, Bool.or_comm]
  rw [Suppressions.suppresses, Suppressions.suppresses, hsuppressed, hsuppressed,
    Bool.and_or_distrib_left]
  ac_rfl

end CommentInserted

/-! ## The findings of the script with the comment -/

/-- The lines of the script with the comment. -/
theorem splitAt_insertAtLineEnd {source : String} {before after : List (List Char)}
    {line : List Char} (h : Text.splitAt '\n' source.toList = before ++ line :: after) (text : String)
    (htext : '\n' ∉ text.toList) :
    Text.splitAt '\n' (insertAtLineEnd source (1 + before.length) text).toList =
      before ++ (line ++ text.toList) :: after := by
  have hmodify : (before ++ line :: after).modify (1 + before.length - 1) (· ++ text.toList) =
      before ++ (line ++ text.toList) :: after := by
    rw [Nat.add_sub_cancel_left, List.modify_eq_take_drop]
    simp
  rw [insertAtLineEnd, String.toList_ofList, h, hmodify]
  refine Text.splitAt_intercalate '\n' (fun l hl => ?_) (by simp)
  obtain ⟨hbefore, hline, hafter⟩ := Text.not_mem_of_splitAt_eq h
  simp only [List.mem_append, List.mem_cons] at hl
  rcases hl with hl | rfl | hl
  · exact hbefore l hl
  · rw [List.mem_append, not_or]
    exact ⟨hline, htext⟩
  · exact hafter l hl

/-- The text of a comment, from its two slashes on, is one line. -/
theorem suppressionSuffix_toList {names : List String} (h : ∀ name ∈ names, IsPlainName name) :
    ∃ text, (suppressionSuffix names).toList = ' ' :: '/' :: '/' :: text ∧ '\n' ∉ text ∧
      String.ofList ('/' :: '/' :: text) = "// noqa: " ++ ", ".intercalate names := by
  refine ⟨" noqa: ".toList ++ [',', ' '].intercalate (names.map String.toList), ?_, ?_, ?_⟩
  · rw [suppressionSuffix, String.toList_append, String.toList_intercalate]
    rfl
  · rw [List.mem_append, not_or]
    refine ⟨by decide, fun hn => ?_⟩
    rcases mem_intercalate hn with hn | ⟨l, hl, hn⟩
    · simp at hn
    · obtain ⟨name, hname, rfl⟩ := List.mem_map.1 hl
      exact absurd ((h name hname).2 _ hn) (by decide)
  · rw [← String.toList_inj, String.toList_ofList, String.toList_append, String.toList_intercalate]
    rfl

theorem map_toToken_read (source : String) (s : Settings) :
    (Script.read source s).outline.tokens.map (·.toToken) = readTokens source s.tabWidth :=
  map_toToken_numberFrom 0 _

/-- The rules find the same in scripts whose outlines differ in numbers and comments alone, if the
lines have the same layout. -/
theorem check_eq_of_matches {source source' : String} {s : Settings} {f : Renumbering}
    (houtline : Outline.Matches f (.read source s.tabWidth) (.read source' s.tabWidth))
    (hlines : SameLines (Text.splitAt '\n' source.toList) (Text.splitAt '\n' source'.toList))
    (c : Category) : c.check (.read source' s) = c.check (.read source s) := by
  have hmatches : Script.Matches f (.read source s) (.read source' s) :=
    ⟨rfl, houtline, houtline.ofOutline_eq⟩
  refine hmatches.check_eq ?_ c
  change Layout.check s (Text.lines source') = Layout.check s (Text.lines source)
  rw [check_lines, check_lines, Layout.checkFrom_congr s hlines]

/-- A comment does not change what the rules find. -/
theorem check_insert_comment {source source' : String} {s : Settings} {comment : Token}
    (htokens : CommentInserted comment (readTokens source s.tabWidth)
      (readTokens source' s.tabWidth))
    (hlines : SameLines (Text.splitAt '\n' source.toList) (Text.splitAt '\n' source'.toList))
    (c : Category) : c.check (.read source' s) = c.check (.read source s) := by
  obtain ⟨f, houtline⟩ := htokens.exists_matches
  rw [← Outline.read_eq, ← Outline.read_eq] at houtline
  exact check_eq_of_matches houtline hlines c

/-- A suppression comment removes exactly what it names.  Put behind the code of line `n`, where no
comment stands and every string is closed, it takes out the findings on that line whose rule id or
category is among its names, and leaves all others as they are. -/
theorem lintSource_insert_comment {source : String} {rules : List Category} {s : Settings} {n : Nat}
    {names : List String} (hline : 1 ≤ n ∧ n ≤ (Text.splitAt '\n' source.toList).length)
    (hcomment : ∀ t ∈ tokenize source s.tabWidth, t.position.line = n → t.kind ≠ .comment)
    (hstring : ∀ t ∈ tokenize source s.tabWidth, t.position.line = n → t.kind = .stringLiteral →
      t.isTerminated = true)
    (hnames : names ≠ []) (hknown : ∀ name ∈ names, ∃ c : Category, c.isNamedBy name = true) :
    lintSource (insertAtLineEnd source n (suppressionSuffix names)) rules s =
      (lintSource source rules s).filter fun d =>
        !(d.position.line == n && names.any d.category.isNamedBy) := by
  have hplain : ∀ name ∈ names, IsPlainName name := by
    intro name hname
    obtain ⟨c, hc⟩ := hknown name hname
    exact Category.isPlainName_of_isNamedBy hc
  obtain ⟨text, hsuffix, htext, hcommentText⟩ := suppressionSuffix_toList hplain
  -- Cut the script at line `n`.
  obtain ⟨before, line, after, hsplit, rfl⟩ := Text.exists_cut hline
  have hwhole : ∀ t ∈ Lexer.content s.tabWidth ⟨1 + before.length, 1⟩ line, t.IsWhole := by
    intro t ht
    obtain ⟨hmem, hn⟩ := mem_tokenize_of_mem_line hsplit ht
    exact ⟨hcomment t hmem hn, hstring t hmem hn⟩
  have hsplit' := splitAt_insertAtLineEnd hsplit (suppressionSuffix names)
    (by simpa [hsuffix] using htext)
  rw [hsuffix] at hsplit'
  have hlines : SameLines (before ++ line :: after)
      (before ++ (line ++ ' ' :: '/' :: '/' :: text) :: after) :=
    sameLines_replace before after (sameLayout_comment hwhole text)
  obtain ⟨comment, hspelling, hposition, hinserted⟩ :=
    commentInserted_scanLines 1 after hwhole (Text.not_mem_of_splitAt_eq hsplit).2.1 htext
  rw [← hsplit, ← hsplit'] at hlines hinserted
  rw [← tokenize_eq_scanLines, ← tokenize_eq_scanLines] at hinserted
  have hread := hinserted.map_wrap
  rw [← readTokens_eq, ← readTokens_eq] at hread
  -- The rules find the same, and the directive of the comment silences what it names.
  have hdirective := ofComment?_suppression hnames hplain
  rw [← hcommentText, ← hspelling] at hdirective
  have hfound : rules.flatMap (·.check (.read (insertAtLineEnd source (1 + before.length)
      (suppressionSuffix names)) s)) = rules.flatMap (·.check (.read source s)) :=
    List.flatMap_congr fun c _ => check_insert_comment hread hlines c
  rw [lintSource, lintSource, hfound]
  refine aggregate_filter (fun d => ?_) _
  have hline : comment.wrap.position.line = 1 + before.length := hposition
  rw [map_toToken_read, map_toToken_read, hread.suppresses_eq hdirective, hline]
  exact congrArg (fun named => _ || (_ && named)) (covers_suppression hplain d.category)

/-- Of the strings on two lines, the one on the line with the comment is no longer reported. -/
theorem lintSource_insert_comment_strings :
    lintSource (insertAtLineEnd "plot(\"a\")\nplot(\"b\")" 1 (suppressionSuffix ["pine001"]))
        Category.all {} =
      ((lintSource "plot(\"a\")\nplot(\"b\")" Category.all {}).filter fun d =>
        !(d.position.line == 1 && ["pine001"].any d.category.isNamedBy)) ∧
    (lintSource "plot(\"a\")\nplot(\"b\")" Category.all {}).map (·.position) =
      [⟨1, 6⟩, ⟨2, 6⟩] := by
  refine ⟨lintSource_insert_comment (by decide +kernel) (by decide +kernel) (by decide +kernel)
    (by simp) ?_, by decide +kernel⟩
  intro name hname
  rw [List.mem_singleton.1 hname]
  exact ⟨.hardcodedString, by decide⟩

end ChartLint
