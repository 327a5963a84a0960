import ChartLint.Proofs.JsonRoundTrip
import ChartLint.RunLog.File

/-!
# Records are read as they are written

A record of the run log that is written as a line and read again is the same record.  Nothing is
asked of its texts; its numbers have to fit into sixty-four bits, the timestamp with a sign and the
counts without.

*Fields.*  A record and a finding are written as the object of those of their fields that have a value
(`objectOf`), and reading such an object gives back every field, the missing ones as missing
(`fields?_objectOf`).

*Values.*  Each field is read as it is written, and so are the lists in them.  With the round trip of
JSON values this gives the round trip of lines.
-/

namespace ChartLint

/-! ## Objects by their fields -/

/-- The members of an object: the fields that have a value, under their names. -/
def membersOf (fields : List (String × Option Json)) : List (Option String × Json) :=
  fields.filterMap fun field => field.2.map (some field.1, ·)

/-- The object of the fields that have a value.  The names are given apart from the values. -/
def objectOf (names : List String) (values : List (Option Json)) : Json :=
  .object (membersOf (names.zip values))

theorem mem_membersOf {fields : List (String × Option Json)} {m : Option String × Json} :
    m ∈ membersOf fields ↔ ∃ name, m.1 = some name ∧ (name, some m.2) ∈ fields := by
  obtain ⟨name, value⟩ := m
  rw [membersOf, List.mem_filterMap]
  constructor
  · rintro ⟨⟨n, v⟩, hfield, hm⟩
    obtain ⟨v, rfl, hv⟩ := Option.map_eq_some_iff.1 hm
    cases hv
    exact ⟨n, rfl, hfield⟩
  · rintro ⟨n, rfl, hfield⟩
    exact ⟨_, hfield, rfl⟩

theorem member?_cons_of_ne {name other : String} (h : other ≠ name) (v : Option Json)
    (fields : List (String × Option Json)) :
    member? (membersOf ((other, v) :: fields)) name = member? (membersOf fields) name := by
  cases v with
  | none => rfl
  | some v =>
      show member? ((some other, v) :: membersOf fields) name = _
      rw [member?, List.filter_cons_of_neg (by simp [h])]
      rfl

/-- Under each of its names an object of fields has what the field has. -/
theorem member?_membersOf {fields : List (String × Option Json)} (h : (fields.map (·.1)).Nodup)
    {name : String} {v : Option Json} (hfield : (name, v) ∈ fields) :
    member? (membersOf fields) name = some v := by
  induction fields with
  | nil => cases hfield
  | cons field fields ih =>
      obtain ⟨other, w⟩ := field
      rw [List.map_cons, List.nodup_cons] at h
      obtain ⟨hother, hfields⟩ := h
      rcases List.mem_cons.1 hfield with heq | hfield
      · cases heq
        -- The other fields have other names.
        have hnone : (membersOf fields).filter (·.1 == some name) = [] := by
          rw [List.filter_eq_nil_iff]
          intro m hm heq
          obtain ⟨n, hn, hmem⟩ := mem_membersOf.1 hm
          rw [hn] at heq
          obtain rfl : n = name := by simpa using heq
          exact hother (List.mem_map.2 ⟨_, hmem, rfl⟩)
        cases v with
        | none =>
            show member? (membersOf fields) name = _
            rw [member?, hnone]
        | some v =>
            show member? ((some name, v) :: membersOf fields) name = _
            rw [member?, List.filter_cons_of_pos (by simp), hnone]
      · have hne : other ≠ name := by
          rintro rfl
          exact hother (List.mem_map.2 ⟨_, hfield, rfl⟩)
        rw [member?_cons_of_ne hne, ih hfields hfield]

theorem mapM_eq_of_zip {names : List String} {values : List (Option Json)}
    (hlength : names.length = values.length) {f : String → Option (Option Json)}
    (h : ∀ field ∈ names.zip values, f field.1 = some field.2) : names.mapM f = some values := by
  induction names generalizing values with
  | nil =>
      cases values with
      | nil => rfl
      | cons => cases hlength
  | cons name names ih =>
      cases values with
      | nil => cases hlength
      | cons v values =>
          obtain ⟨hname, hnames⟩ := List.forall_mem_cons.1 h
          rw [List.mapM_cons, hname, ih (Nat.succ.inj hlength) hnames]
          rfl

/-- The fields of an object are read as they were put into it, the missing ones as missing. -/
theorem fields?_objectOf {names : List String} (hnames : names.Nodup) {values : List (Option Json)}
    (hlength : names.length = values.length) : fields? names (objectOf names values) = some values := by
  have hall : (membersOf (names.zip values)).any (·.1.isNone) = false := by
    rw [List.any_eq_false]
    intro m hm
    obtain ⟨name, hname, -⟩ := mem_membersOf.1 hm
    simp [hname]
  rw [objectOf, fields?, hall]
  refine mapM_eq_of_zip hlength ?_
  rintro ⟨name, v⟩ hfield
  refine member?_membersOf ?_ hfield
  rw [List.map_fst_zip (by omega)]
  exact hnames

/-- An object of exact values is exact. -/
theorem isExact_objectOf {names : List String} {values : List (Option Json)}
    (h : ∀ v ∈ values, ∀ w ∈ v, w.IsExact) : (objectOf names values).IsExact := by
  refine .object ?_ ?_
  · intro m hm
    obtain ⟨name, hname, -⟩ := mem_membersOf.1 hm
    rw [hname]
    rfl
  · intro m hm
    obtain ⟨name, -, hfield⟩ := mem_membersOf.1 hm
    exact h _ (List.of_mem_zip hfield).2 _ rfl

theorem isExact_of_mem_some {v w : Json} (h : v.IsExact) (hw : w ∈ some v) : w.IsExact := by
  cases hw
  exact h

/-! ## Values of fields -/

/-- Sixty-four bits without a sign hold the number. -/
def IsCount (n : Nat) : Prop :=
  n < 0x10000000000000000

namespace Json

theorem isExact_nat {n : Nat} (h : IsCount n) : (nat n).IsExact := by
  refine .int ?_
  rw [IsCount] at h
  rw [fits, Bool.and_eq_true, decide_eq_true_eq, decide_eq_true_eq]
  omega

@[simp] theorem nat?_nat (n : Nat) : (nat n).nat? = some n := by
  simp [nat, nat?]

@[simp] theorem text?_text (s : String) : (text s).text? = some s := rfl

end Json

/-- A list is read as it is written if its items are. -/
theorem list?_map {α : Type} {read : Json → Option α} {write : α → Json} {xs : List α}
    (h : ∀ x ∈ xs, read (write x) = some x) : list? read (.array (xs.map write)) = some xs := by
  show (xs.map write).mapM read = some xs
  induction xs with
  | nil => rfl
  | cons x xs ih =>
      obtain ⟨hx, hxs⟩ := List.forall_mem_cons.1 h
      rw [List.map_cons, List.mapM_cons, hx, ih hxs]
      rfl

/-- A field that may be missing is read as it is written, unless it is written as `null`. -/
theorem optional?_map {α : Type} {read : Json → Option α} {write : α → Json} {x : Option α}
    (h : ∀ y ∈ x, read (write y) = some y ∧ write y ≠ .null) :
    optional? read (x.map write) = some x := by
  cases x with
  | none => rfl
  | some y =>
      obtain ⟨hread, hnull⟩ := h y rfl
      rw [Option.map_some, optional?, hread]
      · rfl
      · intro heq
        exact hnull heq

/-! ## Findings -/

namespace LoggedFinding

/-- The numbers of a finding are counts. -/
def Fits (f : LoggedFinding) : Prop :=
  IsCount f.line ∧ IsCount f.column

/-- The values of the fields of a finding. -/
def fieldValues (f : LoggedFinding) : List (Option Json) :=
  [some (.text f.ruleId), some (.text f.category), some (.text f.path), some (.nat f.line),
    some (.nat f.column), some (.text f.severity), some (.text f.message), f.sourceLine.map .text]

theorem toJson_eq_objectOf (f : LoggedFinding) : f.toJson = objectOf fieldNames f.fieldValues := by
  rw [toJson, fieldValues]
  cases f.sourceLine with
  | none => rfl
  | some line => rfl

theorem isExact_toJson {f : LoggedFinding} (h : f.Fits) : f.toJson.IsExact := by
  rw [toJson_eq_objectOf]
  refine isExact_objectOf ?_
  intro v hv w hw
  simp only [fieldValues, List.mem_cons, List.not_mem_nil, or_false] at hv
  rcases hv with rfl | rfl | rfl | rfl | rfl | rfl | rfl | rfl
  · exact isExact_of_mem_some (.text _) hw
  · exact isExact_of_mem_some (.text _) hw
  · exact isExact_of_mem_some (.text _) hw
  · exact isExact_of_mem_some (Json.isExact_nat h.1) hw
  · exact isExact_of_mem_some (Json.isExact_nat h.2) hw
  · exact isExact_of_mem_some (.text _) hw
  · exact isExact_of_mem_some (.text _) hw
  · obtain ⟨line, -, rfl⟩ := Option.map_eq_some_iff.1 hw
    exact .text line

/-- A finding is read as it is written. -/
theorem ofJson?_toJson (f : LoggedFinding) : ofJson? f.toJson = some f := by
  have hfields : fields? fieldNames f.toJson = some f.fieldValues := by
    rw [toJson_eq_objectOf]
    exact fields?_objectOf (by decide) rfl
  have hline : optional? Json.text? (f.sourceLine.map .text) = some f.sourceLine :=
    optional?_map fun line _ => ⟨rfl, fun h => by cases h⟩
  rw [ofJson?, hfields]
  simp [fieldValues, required?, hline]

end LoggedFinding

/-! ## Records -/

namespace RunRecord

/-- The numbers of a record fit into sixty-four bits. -/
structure Fits (r : RunRecord) : Prop where
  /-- The timestamp does with a sign. -/
  timestamp : -0x8000000000000000 ≤ r.timestamp ∧ r.timestamp < 0x8000000000000000
  /-- The number of files. -/
  filesScanned : IsCount r.filesScanned
  /-- The number of files that could not be read. -/
  filesFailed : IsCount r.filesFailed
  /-- The number of findings. -/
  totalDiagnostics : IsCount r.totalDiagnostics
  /-- The number of errors. -/
  errorCount : IsCount r.errorCount
  /-- The number of warnings. -/
  warningCount : IsCount r.warningCount
  /-- The findings. -/
  diagnostics : ∀ f ∈ r.diagnostics, f.Fits

/-- The values of the fields of a record. -/
def fieldValues (r : RunRecord) : List (Option Json) :=
  [some (.int r.timestamp), some (.text r.datetime), some (.nat r.filesScanned),
    some (.nat r.filesFailed), some (.nat r.totalDiagnostics), some (.nat r.errorCount),
    some (.nat r.warningCount), some (.array (r.diagnostics.map (·.toJson))),
    r.enabledRules.map fun ids => .array (ids.map .text)]

theorem toJson_eq_objectOf (r : RunRecord) : r.toJson = objectOf fieldNames r.fieldValues := by
  rw [toJson, fieldValues]
  cases r.enabledRules with
  | none => rfl
  | some ids => rfl

theorem isExact_toJson {r : RunRecord} (h : r.Fits) : r.toJson.IsExact := by
  rw [toJson_eq_objectOf]
  refine isExact_objectOf ?_
  intro v hv w hw
  simp only [fieldValues, List.mem_cons, List.not_mem_nil, or_false] at hv
  rcases hv with rfl | rfl | rfl | rfl | rfl | rfl | rfl | rfl | rfl
  · refine isExact_of_mem_some (.int ?_) hw
    have := h.timestamp
    rw [Json.fits, Bool.and_eq_true, decide_eq_true_eq, decide_eq_true_eq]
    omega
  · exact isExact_of_mem_some (.text _) hw
  · exact isExact_of_mem_some (Json.isExact_nat h.filesScanned) hw
  · exact isExact_of_mem_some (Json.isExact_nat h.filesFailed) hw
  · exact isExact_of_mem_some (Json.isExact_nat h.totalDiagnostics) hw
  · exact isExact_of_mem_some (Json.isExact_nat h.errorCount) hw
  · exact isExact_of_mem_some (Json.isExact_nat h.warningCount) hw
  · refine isExact_of_mem_some (.array ?_) hw
    intro item hitem
    obtain ⟨f, hf, rfl⟩ := List.mem_map.1 hitem
    exact LoggedFinding.isExact_toJson (h.diagnostics f hf)
  · obtain ⟨ids, -, rfl⟩ := Option.map_eq_some_iff.1 hw
    refine .array ?_
    intro item hitem
    obtain ⟨id, -, rfl⟩ := List.mem_map.1 hitem
    exact .text id

theorem timestamp?_int {n : Int} (h : n < 0x8000000000000000) : timestamp? (.int n) = some n := by
  simp [timestamp?, Json.int?, Option.filter, h]

/-- A record is read as it is written. -/
theorem ofJson?_toJson {r : RunRecord} (h : r.timestamp < 0x8000000000000000) :
    ofJson? r.toJson = some r := by
  have hfields : fields? fieldNames r.toJson = some r.fieldValues := by
    rw [toJson_eq_objectOf]
    exact fields?_objectOf (by decide) rfl
  have hfindings : list? LoggedFinding.ofJson? (.array (r.diagnostics.map (·.toJson))) =
      some r.diagnostics :=
    list?_map fun f _ => f.ofJson?_toJson
  have hrules : optional? (list? Json.text?) (r.enabledRules.map fun ids => .array (ids.map .text)) =
      some r.enabledRules :=
    optional?_map fun ids _ => ⟨list?_map fun _ _ => rfl, fun h => by cases h⟩
  rw [ofJson?, hfields]
  simp [fieldValues, required?, countOrZero?, timestamp?_int h, hfindings, hrules]

/-! ## Lines -/

theorem toList_print (r : RunRecord) : r.print.toList = r.toJson.print := by
  rw [print, Json.compress, String.toList_ofList]

/-- The line of a record has no character that is not visible, so it has no end of line in it. -/
theorem isVisible_of_mem_print {r : RunRecord} (h : r.Fits) {c : Char} (hc : c ∈ r.print.toList) :
    Json.isVisible c = true := by
  rw [toList_print] at hc
  exact List.all_eq_true.1 (Json.all_isVisible_print (isExact_toJson h)) c hc

theorem lineFeed_not_mem_print {r : RunRecord} (h : r.Fits) : '\n' ∉ r.print.toList := by
  intro hmem
  cases isVisible_of_mem_print h hmem

theorem carriageReturn_not_mem_print {r : RunRecord} (h : r.Fits) : '\r' ∉ r.print.toList := by
  intro hmem
  cases isVisible_of_mem_print h hmem

/-- The line of a record is read as the record. -/
theorem read_print {r : RunRecord} (h : r.Fits) : RunRecord.read r.print = some r := by
  rw [read, print, Json.read_compress (isExact_toJson h), Option.bind_some,
    ofJson?_toJson h.timestamp.2]

/-- Records round-trip.  A record whose numbers fit into sixty-four bits is written without a line
feed and without a carriage return, and the line is read as the same record: texts, counts and
findings are kept, and what is missing stays missing. -/
theorem record_round_trip (r : RunRecord) (h : r.Fits) :
    '\n' ∉ r.print.toList ∧ '\r' ∉ r.print.toList ∧ RunRecord.read r.print = some r :=
  ⟨lineFeed_not_mem_print h, carriageReturn_not_mem_print h, read_print h⟩

/-- A record at the ends of what its fields hold: the first second, the largest count, a list of rules
without rules, and texts of ends of lines, quotes, control characters and a character that takes
four bytes.  One of its findings has a line and the other has none. -/
def extreme : RunRecord where
  timestamp := -0x8000000000000000
  datetime := "\r\n"
  filesScanned := 2
  filesFailed := 0
  totalDiagnostics := 0xffffffffffffffff
  errorCount := 1
  warningCount := 1
  diagnostics :=
    [⟨"PINE001", "HardcodedString", "a\\b\n.pine", 1, 0xffffffffffffffff, "warning",
        "\x22\t\x01\x1f\x7f", some "😀"⟩,
      ⟨"", "", "", 0, 0, "ERROR", "\u2028", none⟩]
  enabledRules := some []

theorem fits_extreme : extreme.Fits where
  timestamp := ⟨by decide, by decide⟩
  filesScanned := by unfold IsCount; decide
  filesFailed := by unfold IsCount; decide
  totalDiagnostics := by unfold IsCount; decide
  errorCount := by unfold IsCount; decide
  warningCount := by unfold IsCount; decide
  diagnostics := by
    unfold LoggedFinding.Fits IsCount
    decide

theorem record_round_trip_extreme :
    extreme.Fits ∧ '\n' ∉ extreme.print.toList ∧ '\r' ∉ extreme.print.toList ∧
      RunRecord.read extreme.print = some extreme :=
  ⟨fits_extreme, record_round_trip extreme fits_extreme⟩

end RunRecord

end ChartLint
