import ChartLint.Proofs.TokenShape
import ChartLint.Selection

/-!
# Which rules are chosen

A configuration and the command line name rules to switch on and off in several ways: a list of ids,
`ALL`, only rules to leave out, or nothing.  All of them mean the same.  A rule runs if it is
switched on, and no list or `ALL` switches on every rule, and it is not switched off.

*Case.*  Ids are compared in two ways, letter by letter among each other and without regard to case
with the ids of rules.  The upper case of a text has no small English letter
(`Text.isCapital_uppercase`), and on such texts the two comparisons agree
(`Text.equalIgnoringCase_iff`).

*Ways.*  Two lists of ids select rules, wherever they are from (`Selection.select`).  A configuration
selects by its own lists, unless the command line names a rule, and the command line selects in place
of what was chosen before (`Selection.ofConfig_eq`, `Selection.override_eq`).  So one pair of lists
counts (`Selection.enabledIds_eq_select`).  What it selects is told case by case
(`Selection.mem_enabled_select`).

*Paths.*  The directories that are always passed over are distinct.  So it is the same whether each
is compared with the given paths alone or also with those added before it (`Selection.foldl_add_eq`).
-/

namespace ChartLint

namespace Text

/-! ## Small English letters -/

theorem isLower_eq_false_iff {c : Char} : c.isLower = false ↔ c.toNat < 97 ∨ 122 < c.toNat := by
  delta Char.isLower
  rw [← Bool.not_eq_true]
  simp [UInt32.le_iff_toNat_le, ← Char.toNat_val]
  omega

theorem isLower_ofNat {n : Nat} (h : n < 97 ∨ 122 < n) : (Char.ofNat n).isLower = false := by
  rw [isLower_eq_false_iff]
  by_cases hvalid : n.isValidChar
  · have hcode : (Char.ofNat n).toNat = n := congrArg Char.toNat (dif_pos hvalid)
    rwa [hcode]
  · have hcode : (Char.ofNat n).toNat = 0 := congrArg Char.toNat (dif_neg hvalid)
    omega

/-- No shift leads to a small English letter. -/
theorem isLower_shifted {s : CodeShift} (hs : s ∈ uppercaseShifts) {n : Nat}
    (hn : s.moves n = true) : (Char.ofNat (n + s.offset).toNat).isLower = false := by
  have htable : ∀ s ∈ uppercaseShifts, s.last + s.offset < 97 ∨ 122 < s.first + s.offset := by
    decide +kernel
  rw [CodeShift.moves, Bool.and_eq_true, Bool.and_eq_true, decide_eq_true_eq, decide_eq_true_eq]
    at hn
  have := htable s hs
  refine isLower_ofNat ?_
  omega

theorem isLower_of_mem_upperChar {c d : Char} (h : d ∈ upperChar c) : d.isLower = false := by
  rw [upperChar] at h
  split at h
  case isTrue hascii =>
    rw [List.mem_singleton.1 h]
    exact Lexer.forall_ascii (P := fun c => c.toUpper.isLower = false) (by decide +kernel) hascii
  case isFalse hascii =>
    split at h
    case h_1 n codes hfound =>
      have htable : (uppercaseSequences.all fun entry =>
          entry.2.all fun code => code < 97 || 122 < code) = true := by
        decide +kernel
      obtain ⟨code, hcode, rfl⟩ := List.mem_map.1 h
      have hentry := Array.all_eq_true'.1 htable _ (Array.mem_of_find?_eq_some hfound)
      exact isLower_ofNat (by simpa using List.all_eq_true.1 hentry code hcode)
    case h_2 =>
      rw [List.mem_singleton.1 h, shiftChar]
      split
      case h_1 s hfound =>
        have hmoves := Array.find?_some hfound
        have hmem := Array.mem_of_find?_eq_some hfound
        exact isLower_shifted hmem hmoves
      case h_2 =>
        rw [isLower_eq_false_iff]
        omega

/-- The text has no small English letter. -/
def IsCapital (s : String) : Prop := ∀ c ∈ s.toList, c.isLower = false

theorem isCapital_uppercase (s : String) : IsCapital (uppercase s) := by
  intro c h
  rw [uppercase, String.toList_ofList] at h
  obtain ⟨d, -, hd⟩ := List.mem_flatMap.1 h
  exact isLower_of_mem_upperChar hd

theorem toUpper_toLower {c : Char} (h : c.isLower = false) : c.toLower.toUpper = c := by
  by_cases hascii : c.toNat < 128
  · exact Lexer.forall_ascii (P := fun c => c.isLower = false → c.toLower.toUpper = c)
      (by decide +kernel) hascii h
  · have hval : 128 ≤ c.val.toNat := Nat.le_of_not_lt hascii
    have hlow : c.toLower = c :=
      dif_neg fun hc => absurd (UInt32.le_iff_toNat_le.1 hc.2) (Nat.not_le_of_lt (by simp; omega))
    have hup : c.toUpper = c :=
      dif_neg fun hc => absurd (UInt32.le_iff_toNat_le.1 hc.2) (Nat.not_le_of_lt (by simp; omega))
    rw [hlow, hup]

/-- Between texts without small English letters, case makes no difference. -/
theorem equalIgnoringCase_iff {a b : String} (ha : IsCapital a) (hb : IsCapital b) :
    equalIgnoringCase a b = true ↔ a = b := by
  have hback : ∀ s : String, IsCapital s →
      (s.toList.map Char.toLower).map Char.toUpper = s.toList := by
    intro s hs
    rw [List.map_map]
    exact (List.map_congr_left fun c hc => toUpper_toLower (hs c hc)).trans (List.map_id _)
  rw [equalIgnoringCase, beq_iff_eq]
  constructor
  · intro h
    rw [← String.toList_inj, ← hback a ha, ← hback b hb, h]
  · rintro rfl
    rfl

end Text

/-! ## Ids of rules -/

namespace Category

theorem isCapital_ruleId (c : Category) : Text.IsCapital c.ruleId := by
  have hall : c.ruleId.toList.all (fun d => !d.isLower) = true := by
    cases c <;> decide +kernel
  intro d hd
  simpa using List.all_eq_true.1 hall d hd

/-- The rules that run are listed in the order of the rules. -/
theorem enabled_sublist (ids : Option (List String)) : (enabled ids).Sublist all := by
  cases ids with
  | none => exact List.Sublist.refl all
  | some ids => exact List.filter_sublist

/-- Without small letters, an id is the id of a rule up to case exactly if it is that id. -/
theorem any_equalIgnoringCase_iff {ids : List String} (h : ∀ id ∈ ids, Text.IsCapital id)
    (c : Category) : ids.any (Text.equalIgnoringCase · c.ruleId) = true ↔ c.ruleId ∈ ids := by
  have hequal : ∀ id ∈ ids, Text.equalIgnoringCase id c.ruleId = true ↔ id = c.ruleId :=
    fun id hid => Text.equalIgnoringCase_iff (h id hid) c.isCapital_ruleId
  rw [List.any_eq_true]
  constructor
  · rintro ⟨id, hid, hsame⟩
    exact (hequal id hid).1 hsame ▸ hid
  · exact fun hc => ⟨c.ruleId, hc, (hequal _ hc).2 rfl⟩

theorem mem_enabled_some {ids : List String} (h : ∀ id ∈ ids, Text.IsCapital id) {c : Category} :
    c ∈ enabled (some ids) ↔ c.ruleId ∈ ids := by
  rw [enabled, List.mem_filter, and_iff_right c.mem_all, any_equalIgnoringCase_iff h]

end Category

namespace Selection

theorem mem_allExcept {disable : List String} (h : ∀ id ∈ disable, Text.IsCapital id)
    {c : Category} : c.ruleId ∈ allExcept disable ↔ c.ruleId ∉ disable := by
  have hid : c.ruleId ∈ allIds := List.mem_map_of_mem c.mem_all
  rw [allExcept, List.mem_filter, and_iff_right hid, Bool.not_eq_true', ← Bool.not_eq_true,
    Category.any_equalIgnoringCase_iff h]

theorem isCapital_of_mem_allExcept {disable : List String} {id : String}
    (h : id ∈ allExcept disable) : Text.IsCapital id := by
  obtain ⟨c, -, rfl⟩ := List.mem_map.1 (List.mem_filter.1 h).1
  exact c.isCapital_ruleId

/-! ## The ways to select -/

/-- The rule ids that two lists of normalized ids select; none if both are empty. -/
def select (enable disable : List String) : Option (List String) :=
  if enable.contains "ALL" then some (allExcept disable)
  else if !enable.isEmpty then some (enable.filter fun id => !disable.contains id)
  else if !disable.isEmpty then some (allExcept disable)
  else none

/-- All rules run without a selection only if no id is given at all. -/
theorem select_eq_none_iff {enable disable : List String} :
    select enable disable = none ↔ enable = [] ∧ disable = [] := by
  rw [select]
  split
  case isTrue hall =>
    have hne : enable ≠ [] := List.ne_nil_of_mem (List.contains_iff_mem.1 hall)
    simp [hne]
  case isFalse hall =>
    split
    case isTrue hsome =>
      have hne : enable ≠ [] := by simpa using hsome
      simp [hne]
    case isFalse hnone =>
      obtain rfl : enable = [] := by simpa using hnone
      cases disable <;> simp

/-- A rule runs if its id is switched on, by a list, by `ALL` or since nothing is, and if it is not
switched off. -/
theorem mem_enabled_select {enable disable : List String}
    (henable : ∀ id ∈ enable, Text.IsCapital id) (hdisable : ∀ id ∈ disable, Text.IsCapital id)
    {c : Category} :
    c ∈ Category.enabled (select enable disable) ↔
      (enable = [] ∨ "ALL" ∈ enable ∨ c.ruleId ∈ enable) ∧ c.ruleId ∉ disable := by
  have hexcept : c ∈ Category.enabled (some (allExcept disable)) ↔ c.ruleId ∉ disable := by
    rw [Category.mem_enabled_some fun id hid => isCapital_of_mem_allExcept hid,
      mem_allExcept hdisable]
  rw [select]
  split
  case isTrue hall =>
    rw [hexcept, and_iff_right (Or.inr (Or.inl (List.contains_iff_mem.1 hall)))]
  case isFalse hall =>
    split
    case isTrue hsome =>
      have hne : enable ≠ [] := by simpa using hsome
      have hlist : "ALL" ∉ enable := fun h => hall (List.contains_iff_mem.2 h)
      rw [Category.mem_enabled_some fun id hid => henable id (List.mem_filter.1 hid).1]
      simp [hne, hlist]
    case isFalse hnone =>
      obtain rfl : enable = [] := by simpa using hnone
      rw [and_iff_right (Or.inl rfl)]
      split
      case isTrue => exact hexcept
      case isFalse hempty =>
        obtain rfl : disable = [] := by simpa using hempty
        simp [Category.enabled, c.mem_all]

/-- The ids that count, of rules to switch on and of rules to switch off: those of the command line
if it gives any, otherwise those of the configuration. -/
def given (config : Option Config) (enable disable : List String) : List String × List String :=
  if enable = [] ∧ disable = [] then
    ((config.map (·.enable)).getD [], (config.map (·.disable)).getD [])
  else (enable, disable)

/-- A configuration selects what its ids select, unless the command line names a rule. -/
theorem ofConfig_eq (config : Config) (enable disable : List String) :
    ofConfig config enable disable =
      if enable = [] ∧ disable = [] then
        select (config.enable.map normalize) (config.disable.map normalize)
      else none := by
  rw [ofConfig, select]
  by_cases h : enable = [] ∧ disable = []
  · rw [if_pos h, if_pos (by simp [h])]
  · rw [if_neg h, if_neg (by simpa using h)]

/-- The command line selects what its ids select, and leaves what was chosen if it gives none. -/
theorem override_eq (chosen : Option (List String)) (enable disable : List String) :
    override chosen enable disable = (select enable disable).or chosen := by
  cases enable with
  | nil => cases disable <;> rfl
  | cons id enable =>
      rw [override, select, if_pos (by rfl)]
      split
      case isTrue => rfl
      case isFalse => rfl

/-- Reading the configuration first and overriding it afterwards selects what the ids that count
select. -/
theorem enabledIds_eq_select (config : Option Config) (enable disable : List String) :
    enabledIds config enable disable =
      select ((given config enable disable).1.map normalize)
        ((given config enable disable).2.map normalize) := by
  rw [enabledIds, given, override_eq]
  simp only [ofConfig_eq, List.map_eq_nil_iff]
  by_cases h : enable = [] ∧ disable = []
  · obtain ⟨rfl, rfl⟩ := h
    cases config <;> rfl
  · obtain ⟨ids, hids⟩ := Option.ne_none_iff_exists'.1
      (mt select_eq_none_iff.1 (by simpa using h) :
        select (enable.map normalize) (disable.map normalize) ≠ none)
    rw [if_neg h, hids, Option.some_or]

/-! ## Paths -/

/-- Adding names that are not there yet, one after the other, adds those that were not there at the
start, if they are distinct. -/
theorem foldl_add_eq (names : List String) {added : List String} (h : added.Nodup) :
    added.foldl (fun present d => if d ∈ present then present else present ++ [d]) names =
      names ++ added.filter (· ∉ names) := by
  induction added generalizing names with
  | nil => simp
  | cons d added ih =>
      obtain ⟨hd, hadded⟩ := List.nodup_cons.1 h
      rw [List.foldl_cons, ih _ hadded]
      by_cases hmem : d ∈ names
      · simp [hmem]
      · have hrest : added.filter (· ∉ names ++ [d]) = added.filter (· ∉ names) := by
          refine List.filter_congr fun e he => ?_
          have hne : e ≠ d := fun h => hd (h ▸ he)
          simp [hne]
        simp only [hmem, if_false]
        rw [hrest]
        simp [hmem]

/-! ## The main result -/

/-- A selection has one meaning.  Let the ids to switch on and off be those of the command line if
it gives any, otherwise those of the configuration, each trimmed and in upper case.  The rules that
run are, in the order of the rules and once each, those that are switched on, by their id, by `ALL`
or since no id is, and that are not switched off; and no selection is made exactly if no id is
given.  The paths to pass over are those of the configuration, those of the command line and, added
one by one, the directories that are always passed over and are not there yet. -/
theorem selection_meaning (config : Option Config) (enable disable exclude : List String) :
    let on := (given config enable disable).1.map fun id => Text.uppercase (Text.trim id)
    let off := (given config enable disable).2.map fun id => Text.uppercase (Text.trim id)
    let rules := Category.enabled (enabledIds config enable disable)
    let named := (config.map (·.exclude)).getD [] ++ exclude
    (∀ c, c ∈ rules ↔ (on = [] ∨ "ALL" ∈ on ∨ c.ruleId ∈ on) ∧ c.ruleId ∉ off) ∧
      rules.Sublist Category.all ∧ rules.Nodup ∧
      (enabledIds config enable disable = none ↔ on = [] ∧ off = []) ∧
      excludes config exclude = named ++ defaultExcludes.filter (· ∉ named) ∧
      excludes config exclude = defaultExcludes.foldl
        (fun present d => if d ∈ present then present else present ++ [d]) named := by
  intro on off rules named
  have hids : enabledIds config enable disable = select on off :=
    enabledIds_eq_select config enable disable
  have hcapital : ∀ ids : List String, ∀ id ∈ ids.map normalize, Text.IsCapital id := by
    intro ids id hid
    obtain ⟨id, -, rfl⟩ := List.mem_map.1 hid
    exact Text.isCapital_uppercase _
  have hfold : excludes config exclude = defaultExcludes.foldl
      (fun present d => if d ∈ present then present else present ++ [d]) named := by
    simp only [excludes, List.contains_iff_mem, named]
  have hdistinct : defaultExcludes.Nodup := by decide
  refine ⟨fun c => ?_, Category.enabled_sublist _, ?_, ?_, ?_, hfold⟩
  · simp only [rules, hids]
    exact mem_enabled_select (hcapital _) (hcapital _)
  · exact (Category.enabled_sublist _).nodup (by decide)
  · rw [hids, select_eq_none_iff]
  · rw [hfold, foldl_add_eq named hdistinct]

end Selection

end ChartLint
