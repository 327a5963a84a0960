import ChartLint.Proofs.CouplingReport
import ChartLint.Proofs.FindingOrder

/-!
# Selecting rules is filtering findings

Rules are independent of each other.  Running some of the rules on a script gives those findings of
all rules that belong to them, in the same order.

*Rules.*  The rule of a category finds nothing of another category (`category_of_mem_check`).  Two
rules share the judgement of the layout, and each keeps its own part.  So leaving out rules is
leaving out the findings of their categories (`flatMap_check_filter`).

*Findings.*  Silencing and sorting look at one finding at a time, so they commute with leaving
findings out (`aggregate_filter_found`).
-/

namespace ChartLint

/-! ## Findings of one rule -/

theorem Literal.category_of_treeFinding? {colors : List Call} {declared : List Nat} {root : Call}
    {d : Diagnostic} (h : treeFinding? colors declared root = some d) :
    d.category = .hardcodedColor := by
  rw [treeFinding?] at h
  split at h
  case h_1 =>
    cases h
    rfl
  case h_2 =>
    split at h
    case isTrue => cases h
    case isFalse =>
      cases h
      rfl

theorem Usage.category_of_forwardFinding? {x : Index} {r : Reference} {d : Diagnostic}
    (h : forwardFinding? x r = some d) : d.category = .forwardReference := by
  obtain ⟨declaration, -, h⟩ := Option.bind_eq_some_iff.1 h
  obtain ⟨-, -, h⟩ := Option.bind_eq_some_iff.1 h
  cases h
  rfl

namespace Category

/-- A rule finds nothing of another category. -/
theorem category_of_mem_check {c : Category} {s : Script} {d : Diagnostic} (h : d ∈ c.check s) :
    d.category = c := by
  cases c with
  | hardcodedString =>
      obtain ⟨t, -, rfl⟩ := List.mem_map.1 h
      rfl
  | hardcodedColor =>
      rcases List.mem_append.1 h with h | h
      · obtain ⟨root, -, hroot⟩ := List.mem_filterMap.1 h
        exact Literal.category_of_treeFinding? hroot
      · obtain ⟨t, -, rfl⟩ := List.mem_map.1 h
        rfl
  | badIndentation => exact eq_of_beq (List.mem_filter.1 h).2
  | operatorPlacement => exact eq_of_beq (List.mem_filter.1 h).2
  | forwardReference =>
      obtain ⟨r, -, hr⟩ := List.mem_filterMap.1 h
      exact Usage.category_of_forwardFinding? hr
  | mixedThresholdUsage => exact (Coupling.founded_of_mem_check rfl h).1
  | unusedConstant =>
      obtain ⟨declaration, -, rfl⟩ := List.mem_map.1 h
      rfl

/-- Leaving out rules is leaving out the findings of their categories. -/
theorem flatMap_check_filter (rules : List Category) (p : Category → Bool) (s : Script) :
    (rules.filter p).flatMap (·.check s) =
      (rules.flatMap (·.check s)).filter fun d => p d.category := by
  induction rules with
  | nil => rfl
  | cons c rules ih =>
      rw [List.flatMap_cons, List.filter_append, ← ih]
      cases hc : p c with
      | true =>
          have hown : (c.check s).filter (fun d => p d.category) = c.check s := by
            rw [List.filter_eq_self]
            intro d hd
            rw [category_of_mem_check hd, hc]
          rw [List.filter_cons_of_pos hc, List.flatMap_cons, hown]
      | false =>
          have hown : (c.check s).filter (fun d => p d.category) = [] := by
            rw [List.filter_eq_nil_iff]
            intro d hd
            rw [category_of_mem_check hd, hc]
            exact Bool.false_ne_true
          rw [List.filter_cons_of_neg (by simp [hc]), hown, List.nil_append]

end Category

/-! ## Findings of all rules -/

theorem aggregate_filter_found (found : List Diagnostic) (silenced : Suppressions)
    (p : Diagnostic → Bool) :
    aggregate (found.filter p) silenced = (aggregate found silenced).filter p := by
  rw [aggregate, aggregate, ← sorted_filter, List.filter_comm]

/-- Running the rules that satisfy a condition gives the findings whose category does. -/
theorem lintSource_filter (source : String) (rules : List Category) (p : Category → Bool)
    (s : Settings) :
    lintSource source (rules.filter p) s =
      (lintSource source rules s).filter fun d => p d.category := by
  rw [lintSource, Category.flatMap_check_filter, aggregate_filter_found]
  rfl

/-! ## Ids -/

theorem equalIgnoringCase_congr {a b : String} (h : Text.equalIgnoringCase a b = true)
    (c : String) : Text.equalIgnoringCase b c = Text.equalIgnoringCase a c := by
  rw [Text.equalIgnoringCase, beq_iff_eq] at h
  rw [Text.equalIgnoringCase, Text.equalIgnoringCase, h]

/-- An id that is in the list of ids already, or that is the id of no rule, selects nothing new. -/
theorem enabled_cons {front back : List String} {id : String}
    (h : (∀ c : Category, Text.equalIgnoringCase id c.ruleId = false) ∨
      ∃ other ∈ front ++ back, Text.equalIgnoringCase other id = true) :
    Category.enabled (some (front ++ id :: back)) = Category.enabled (some (front ++ back)) := by
  rw [Category.enabled, Category.enabled]
  refine List.filter_congr fun c _ => ?_
  rw [List.any_append, List.any_cons, List.any_append]
  rcases h with hunknown | ⟨other, hother, hsame⟩
  · rw [hunknown c, Bool.false_or]
  · cases hid : Text.equalIgnoringCase id c.ruleId with
    | false => rw [Bool.false_or]
    | true =>
        have hany : (front ++ back).any (Text.equalIgnoringCase · c.ruleId) = true := by
          rw [List.any_eq_true]
          exact ⟨other, hother, (equalIgnoringCase_congr hsame c.ruleId).symm.trans hid⟩
        rw [← List.any_append, hany, Bool.true_or, Bool.or_true]

/-- Selecting rules is filtering findings.  The findings of the rules that a list of ids selects are
those findings of all rules whose id is in the list, up to the case of its English letters.  An id
that no rule has and one that is repeated make no difference. -/
theorem lintSource_enabled (source : String) (s : Settings) (ids : List String) :
    lintSource source (Category.enabled (some ids)) s =
        ((lintSource source Category.all s).filter fun d =>
          ids.any (Text.equalIgnoringCase · d.ruleId)) ∧
      ∀ front id back, ids = front ++ id :: back →
        ((∀ c : Category, Text.equalIgnoringCase id c.ruleId = false) ∨
          ∃ other ∈ front ++ back, Text.equalIgnoringCase other id = true) →
        lintSource source (Category.enabled (some (front ++ back))) s =
          lintSource source (Category.enabled (some ids)) s := by
  constructor
  · exact lintSource_filter source Category.all
      (fun c => ids.any (Text.equalIgnoringCase · c.ruleId)) s
  · rintro front id back rfl h
    rw [enabled_cons h]

/-- Of a string and a color in one script, the rule on strings reports the string, however often its
id is given. -/
theorem lintSource_enabled_strings :
    let source := "plot(\"a\", #ff0000)"
    let all := lintSource source Category.all {}
    all.map (·.ruleId) = ["PINE001", "PINE002"] ∧
      lintSource source (Category.enabled (some ["pine001", "PINE001"])) {} =
        (all.filter fun d => ["pine001", "PINE001"].any (Text.equalIgnoringCase · d.ruleId)) ∧
      lintSource source (Category.enabled (some ["PINE001"])) {} =
        lintSource source (Category.enabled (some ["pine001", "PINE001"])) {} := by
  intro source all
  obtain ⟨hfilter, hrepeated⟩ := lintSource_enabled source {} ["pine001", "PINE001"]
  refine ⟨by decide +kernel, hfilter, hrepeated [] "pine001" ["PINE001"] rfl (Or.inr ?_)⟩
  exact ⟨"PINE001", List.mem_cons_self, by decide⟩

end ChartLint
