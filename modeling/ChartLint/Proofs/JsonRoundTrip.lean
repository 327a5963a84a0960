import ChartLint.Json.Printer
import ChartLint.Json.Reader
import Mathlib.Data.List.TakeDrop
import Mathlib.Data.List.TakeWhile

/-!
# Reading back what is printed

A value that is printed on one line and read again is the same value.  This holds for the *exact*
values: their integers fit into sixty-four bits, their strings are texts, and none of their numbers is
kept as it is spelled.

*Strings.*  A character is written by an escape or stands for itself, and reading either takes exactly
what was written for it (`readChars_escapeChar`).

*Numbers.*  The digits of an integer are read up to the first character that no number goes on with,
so it matters what follows a number (`Stops`).

*Values.*  Reading nests as the values do, and its bound counts calls.  Twice the length of what is
printed is enough (`readValue_print`), since each call at the second remove takes a character.

*Lines.*  No printed character is a control character (`all_isVisible_print`), so what is printed is
one line.
-/

namespace ChartLint

namespace Json

/-- A value that is read as it is written. -/
inductive IsExact : Json → Prop
  /-- The value `null`. -/
  | null : IsExact .null
  /-- A truth value. -/
  | bool (b : Bool) : IsExact (.bool b)
  /-- An integer that fits. -/
  | int {n : Int} (h : fits n = true) : IsExact (.int n)
  /-- A text. -/
  | text (s : String) : IsExact (.text s)
  /-- A list of exact values. -/
  | array {items : List Json} (h : ∀ v ∈ items, IsExact v) : IsExact (.array items)
  /-- Exact values under names that are texts. -/
  | object {members : List (Option String × Json)} (names : ∀ m ∈ members, m.1.isSome = true)
      (values : ∀ m ∈ members, IsExact m.2) : IsExact (.object members)

theorem skipSpaces_cons {c : Char} (hc : isSpace c = false) (cs : List Char) :
    skipSpaces (c :: cs) = c :: cs := by
  rw [skipSpaces, List.dropWhile_cons_of_neg (by simp [hc])]

/-! ## Strings -/

theorem hexValue?_hexDigit : ∀ n < 16, Text.hexValue? (hexDigit n) = some n := by
  decide

/-- Two hexadecimal digits behind two zeros write a number below 256. -/
theorem hexUnit?_hexDigit {n : Nat} (h : n < 256) :
    hexUnit? '0' '0' (hexDigit (n / 16)) (hexDigit (n % 16)) = some n := by
  have hzero : Text.hexValue? '0' = some 0 := by decide
  have hhigh := hexValue?_hexDigit (n / 16) (by omega)
  have hlow := hexValue?_hexDigit (n % 16) (by omega)
  have hn : n / 16 * 16 + n % 16 = n := Nat.div_add_mod' n 16
  simp [hexUnit?, hzero, hhigh, hlow, hn]

theorem unitChar_of_lt {n : Nat} (h : n < 0xD800) (rest : List Char) :
    unitChar n rest = (some (Char.ofNat n), rest) := by
  have hhigh : isHighHalf n = false := by simp [isHighHalf]; omega
  have hlow : isLowHalf n = false := by simp [isLowHalf]; omega
  simp [unitChar, hhigh, hlow]

/-- Put a character that was read in front of what is read behind it. -/
def behindChar (c : Char) (r : List (Option Char) × List Char) : List (Option Char) × List Char :=
  (some c :: r.1, r.2)

/-- A backslash and what belongs to it are read as one character. -/
theorem readChars_escape {e c : Char} {cs rest : List Char}
    (h : unescape? e cs = some (some c, rest)) (fuel : Nat) :
    readChars (fuel + 1) ('\\' :: e :: cs) = (readChars fuel rest).map (behindChar c) := by
  rw [readChars]
  simp only [h, Option.bind_eq_bind, Option.bind_some]
  cases readChars fuel rest with
  | none => rfl
  | some r => rfl

theorem readChars_plain {c : Char} (hquote : c ≠ '"') (hslash : c ≠ '\\') (hc : ¬ c.toNat < 0x20)
    (fuel : Nat) (cs : List Char) :
    readChars (fuel + 1) (c :: cs) = (readChars fuel cs).map (behindChar c) := by
  rw [readChars]
  · rw [if_neg hc]
    cases readChars fuel cs with
    | none => rfl
    | some r => rfl
  · exact hquote
  · exact hslash

/-- A character is read as it is written. -/
theorem readChars_escapeChar (c : Char) (fuel : Nat) (cs : List Char) :
    readChars (fuel + 1) (escapeChar c ++ cs) = (readChars fuel cs).map (behindChar c) := by
  have hof {n : Nat} (h : c.toNat = n) : Char.ofNat n = c := by rw [← h, Char.ofNat_toNat]
  rw [escapeChar]
  split_ifs with hquote hslash hb hf hn hr ht hcontrol
  · exact readChars_escape (by rw [hquote]; rfl) fuel
  · exact readChars_escape (by rw [hslash]; rfl) fuel
  · exact readChars_escape (by rw [← hof hb]; rfl) fuel
  · exact readChars_escape (by rw [← hof hf]; rfl) fuel
  · exact readChars_escape (by rw [hn]; rfl) fuel
  · exact readChars_escape (by rw [hr]; rfl) fuel
  · exact readChars_escape (by rw [ht]; rfl) fuel
  · refine readChars_escape ?_ fuel
    show (hexUnit? '0' '0' (hexDigit (c.toNat / 16)) (hexDigit (c.toNat % 16))).map
      (fun n => unitChar n cs) = some (some c, cs)
    rw [hexUnit?_hexDigit (by omega), Option.map_some, unitChar_of_lt (by omega), Char.ofNat_toNat]
  · exact readChars_plain hquote hslash hcontrol fuel cs

theorem readChars_flatMap (cs rest : List Char) (fuel : Nat) (h : cs.length < fuel) :
    readChars fuel (cs.flatMap escapeChar ++ '"' :: rest) = some (cs.map some, rest) := by
  induction cs generalizing fuel with
  | nil =>
      cases fuel with
      | zero => cases h
      | succ fuel => rw [List.flatMap_nil, List.nil_append, readChars, List.map_nil]
  | cons c cs ih =>
      cases fuel with
      | zero => cases h
      | succ fuel =>
          rw [List.length_cons] at h
          rw [List.flatMap_cons, List.append_assoc, readChars_escapeChar, ih fuel (by omega)]
          rfl

theorem escapeChar_ne_nil (c : Char) : escapeChar c ≠ [] := by
  rw [escapeChar]
  split_ifs <;> simp

/-- No character is written by less than one. -/
theorem length_le_flatMap (cs : List Char) : cs.length ≤ (cs.flatMap escapeChar).length := by
  induction cs with
  | nil => simp
  | cons c cs ih =>
      have := List.length_pos_iff.2 (escapeChar_ne_nil c)
      rw [List.flatMap_cons, List.length_append, List.length_cons]
      omega

theorem textOf_map_some (cs : List Char) : textOf (cs.map some) = some (String.ofList cs) := by
  have hmap : (cs.map some).mapM id = some cs := by
    induction cs with
    | nil => rfl
    | cons c cs ih => simp [ih]
  rw [textOf, hmap, Option.map_some]

theorem printString_some (s : String) :
    printString (some s) = '"' :: (s.toList.flatMap escapeChar ++ ['"']) := rfl

/-- A text is read behind its opening quote as it is written. -/
theorem readString_print (s : String) (rest : List Char) :
    readString (s.toList.flatMap escapeChar ++ '"' :: rest) = some (some s, rest) := by
  have hlength := length_le_flatMap s.toList
  have hread := readChars_flatMap s.toList rest
    ((s.toList.flatMap escapeChar ++ '"' :: rest).length + 1)
    (by rw [List.length_append, List.length_cons]; omega)
  rw [readString, hread, Option.map_some]
  simp only [textOf_map_some, String.ofList_toList]

/-! ## Numbers -/

/-- What can follow a number: nothing, or a character that no number goes on with. -/
def Stops (rest : List Char) : Prop :=
  ∀ c ∈ rest.head?, c.isDigit = false ∧ c ≠ '.' ∧ c ≠ 'e' ∧ c ≠ 'E'

theorem stops_nil : Stops [] := by
  intro c hc
  cases hc

theorem stops_cons {c : Char} (h : c.isDigit = false ∧ c ≠ '.' ∧ c ≠ 'e' ∧ c ≠ 'E')
    (rest : List Char) : Stops (c :: rest) := by
  intro d hd
  cases hd
  exact h

theorem isDigit_of_mem_toDigits {n : Nat} {c : Char} (h : c ∈ Nat.toDigits 10 n) :
    c.isDigit = true :=
  Nat.isDigit_of_mem_toDigits (by decide) (by decide) h

theorem digitsValue_toDigits (n : Nat) : digitsValue (Nat.toDigits 10 n) = n :=
  Nat.ofDigitChars_toDigits (by decide) (by decide)

/-- Digits are read up to the first character that is none. -/
theorem readDigits_append {ds rest : List Char} (hne : ds ≠ []) (hds : ∀ c ∈ ds, c.isDigit = true)
    (hrest : Stops rest) : readDigits (ds ++ rest) = some (ds, rest) := by
  have hstop : rest.takeWhile Char.isDigit = [] ∧ rest.dropWhile Char.isDigit = rest := by
    cases rest with
    | nil => exact ⟨rfl, rfl⟩
    | cons c rest => simp [(hrest c rfl).1]
  rw [readDigits, List.span_eq_takeWhile_dropWhile, List.takeWhile_append_of_pos hds,
    List.dropWhile_append_of_pos hds, hstop.1, hstop.2, List.append_nil]
  simp [hne]

theorem head?_toDigits_append (n : Nat) (rest : List Char) :
    (Nat.toDigits 10 n ++ rest).head? = (Nat.toDigits 10 n).head? := by
  obtain ⟨c, cs, hcs⟩ := List.exists_cons_of_ne_nil (Nat.toDigits_ne_nil (n := n) (b := 10))
  rw [hcs]
  rfl

/-- The digits of a number other than zero start with another digit than zero. -/
theorem head?_toDigits_ne {n : Nat} (hn : 0 < n) : (Nat.toDigits 10 n).head? ≠ some '0' := by
  induction n using Nat.strongRecOn with
  | _ n ih =>
      rw [Nat.toDigits_eq_if (by decide)]
      split
      case isTrue hlt =>
        have hdigit : ∀ k < 10, 0 < k → k.digitChar ≠ '0' := by decide
        simpa using hdigit n hlt hn
      case isFalse hle =>
        rw [head?_toDigits_append]
        exact ih (n / 10) (by omega) (by omega)

theorem readWhole_toDigits (n : Nat) {rest : List Char} (hrest : Stops rest) :
    readWhole (Nat.toDigits 10 n ++ rest) = some (Nat.toDigits 10 n, rest) := by
  cases n with
  | zero => rfl
  | succ n =>
      rw [readWhole]
      · exact readDigits_append Nat.toDigits_ne_nil (fun c hc => isDigit_of_mem_toDigits hc) hrest
      · intro tail htail
        refine head?_toDigits_ne (Nat.succ_pos n) ?_
        rw [← head?_toDigits_append (n + 1) rest, htail]
        rfl

theorem readFraction_stops {rest : List Char} (h : Stops rest) :
    readFraction rest = some ([], rest) := by
  rw [readFraction]
  intro tail htail
  rw [htail] at h
  exact (h '.' rfl).2.1 rfl

theorem readExponent_stops {rest : List Char} (h : Stops rest) :
    readExponent rest = some ([], rest) := by
  cases rest with
  | nil => rfl
  | cons c rest =>
      obtain ⟨-, -, he, hE⟩ := h c rfl
      rw [readExponent.eq_def]
      exact if_neg (by simp [he, hE])

/-- The value of the digits of an integer is the integer, if that fits. -/
theorem numberOf_toDigits {n : Int} (h : fits n = true) :
    numberOf (decide (n < 0)) (Nat.toDigits 10 n.natAbs) [] = .int n := by
  have hsign : (if n < 0 then -(n.natAbs : Int) else n.natAbs) = n := by omega
  have hzero : (decide (n < 0) && n.natAbs == 0) = false := by
    rw [Bool.and_eq_false_iff, decide_eq_false_iff_not, beq_eq_false_iff_ne]
    omega
  simp only [numberOf, digitsValue_toDigits, decide_eq_true_eq, hsign]
  exact if_pos (by rw [h, hzero]; rfl)

theorem readNumber_minus {cs whole rest : List Char} (hwhole : readWhole cs = some (whole, rest))
    (hrest : Stops rest) : readNumber ('-' :: cs) = some (numberOf true whole [], rest) := by
  unfold readNumber
  simp only [Option.bind_eq_bind, Option.bind_eq_some_iff]
  exact ⟨_, hwhole, _, readFraction_stops hrest, _, readExponent_stops hrest, rfl⟩

theorem readNumber_digits {cs whole rest : List Char} (hcs : cs.head? ≠ some '-')
    (hwhole : readWhole cs = some (whole, rest)) (hrest : Stops rest) :
    readNumber cs = some (numberOf false whole [], rest) := by
  unfold readNumber
  split
  next negative tail hsign =>
    split at hsign
    next => exact absurd rfl hcs
    next =>
      cases hsign
      simp only [Option.bind_eq_bind, Option.bind_eq_some_iff]
      exact ⟨_, hwhole, _, readFraction_stops hrest, _, readExponent_stops hrest, rfl⟩

/-- An integer that fits is read as it is written. -/
theorem readNumber_printInt {n : Int} (h : fits n = true) {rest : List Char} (hrest : Stops rest) :
    readNumber (printInt n ++ rest) = some (.int n, rest) := by
  have hwhole := readWhole_toDigits n.natAbs hrest
  rw [← numberOf_toDigits h, printInt]
  split
  case isTrue hn =>
    rw [List.cons_append, readNumber_minus hwhole hrest, decide_eq_true hn]
  case isFalse hn =>
    rw [readNumber_digits ?_ hwhole hrest, decide_eq_false hn]
    rw [head?_toDigits_append]
    intro hhead
    have := isDigit_of_mem_toDigits (List.mem_of_mem_head? hhead)
    cases this

/-! ## Values -/

/-- With calls enough, the value is read as it is written. -/
def ReadsBack (v : Json) : Prop :=
  ∀ fuel rest, 2 * v.print.length ≤ fuel → Stops rest →
    readValue fuel (v.print ++ rest) = some (v, rest)

theorem readValue_number {c : Char} (hc : c = '-' ∨ c.isDigit = true) (fuel : Nat)
    (cs : List Char) : readValue (fuel + 1) (c :: cs) = readNumber (c :: cs) := by
  have hne (d : Char) (hd : d ≠ '-' ∧ d.isDigit = false) : c ≠ d := by
    rintro rfl
    rcases hc with hc | hc
    · exact hd.1 hc
    · rw [hd.2] at hc
      cases hc
  have hspace : isSpace c = false := by
    simp [isSpace, hne ' ' (by decide), hne '\n' (by decide), hne '\t' (by decide),
      hne '\r' (by decide)]
  rw [readValue, skipSpaces_cons hspace]
  split
  case h_1 heq => exact absurd (List.cons.inj heq).1 (hne 'n' (by decide))
  case h_2 heq => exact absurd (List.cons.inj heq).1 (hne 't' (by decide))
  case h_3 heq => exact absurd (List.cons.inj heq).1 (hne 'f' (by decide))
  case h_4 heq => exact absurd (List.cons.inj heq).1 (hne '"' (by decide))
  case h_5 heq => exact absurd (List.cons.inj heq).1 (hne '[' (by decide))
  case h_6 heq => exact absurd (List.cons.inj heq).1 (hne '\x7b' (by decide))
  case h_7 => rfl

theorem readValue_array {cs : List Char} (h : (skipSpaces cs).head? ≠ some ']') (fuel : Nat) :
    readValue (fuel + 1) ('[' :: cs) =
      (readItems fuel cs).map fun (items, rest) => (.array items, rest) := by
  rw [readValue, skipSpaces_cons (by decide)]
  simp only
  split
  next heq =>
    rw [heq] at h
    exact absurd rfl h
  next => rfl

theorem readValue_object {cs : List Char} (h : (skipSpaces cs).head? ≠ some '\x7d') (fuel : Nat) :
    readValue (fuel + 1) ('\x7b' :: cs) =
      (readMembers fuel cs).map fun (members, rest) => (.object members, rest) := by
  rw [readValue, skipSpaces_cons (by decide)]
  simp only
  split
  next heq =>
    rw [heq] at h
    exact absurd rfl h
  next => rfl

/-- A comma stands between two items. -/
theorem printItems_cons (item next : Json) (more : List Json) :
    printItems (item :: next :: more) = item.print ++ ',' :: printItems (next :: more) := by
  rw [printItems]
  exact List.cons_ne_nil next more

/-- A comma stands between two members. -/
theorem printMembers_cons (name : Option String) (value : Json) (next : Option String × Json)
    (more : List (Option String × Json)) :
    printMembers ((name, value) :: next :: more) =
      printString name ++ ':' :: (value.print ++ ',' :: printMembers (next :: more)) := by
  rw [printMembers]
  exact List.cons_ne_nil next more

theorem exists_printItems_cons (item : Json) (items : List Json) :
    ∃ tail, printItems (item :: items) = item.print ++ tail := by
  cases items with
  | nil => exact ⟨_, by rw [printItems]⟩
  | cons next more => exact ⟨_, printItems_cons item next more⟩

theorem exists_printMembers_cons (member : Option String × Json)
    (members : List (Option String × Json)) :
    ∃ tail, printMembers (member :: members) = printString member.1 ++ tail := by
  cases members with
  | nil => exact ⟨_, by rw [printMembers]⟩
  | cons next more => exact ⟨_, printMembers_cons member.1 member.2 next more⟩

theorem printInt_cases (n : Int) :
    ∃ c cs, printInt n = c :: cs ∧ (c = '-' ∨ c.isDigit = true) := by
  rw [printInt]
  split
  case isTrue => exact ⟨'-', _, rfl, Or.inl rfl⟩
  case isFalse =>
    obtain ⟨c, cs, hcs⟩ := List.exists_cons_of_ne_nil (Nat.toDigits_ne_nil (n := n.natAbs) (b := 10))
    exact ⟨c, cs, hcs, Or.inr (isDigit_of_mem_toDigits (by rw [hcs]; exact List.mem_cons_self))⟩

/-- What is printed starts with a character that is no blank and closes no list. -/
theorem exists_print_cons {v : Json} (h : IsExact v) :
    ∃ c cs, v.print = c :: cs ∧ isSpace c = false ∧ c ≠ ']' := by
  cases h with
  | null => exact ⟨'n', _, rfl, rfl, by decide⟩
  | bool b =>
      cases b with
      | true => exact ⟨'t', _, rfl, rfl, by decide⟩
      | false => exact ⟨'f', _, rfl, rfl, by decide⟩
  | @int n =>
      obtain ⟨c, cs, hcs, hc⟩ := printInt_cases n
      refine ⟨c, cs, by rw [print, hcs], ?_, ?_⟩
      · rcases hc with rfl | hc
        · rfl
        · cases hspace : isSpace c with
          | false => rfl
          | true =>
              simp only [isSpace, Bool.or_eq_true, beq_iff_eq] at hspace
              rcases hspace with ((rfl | rfl) | rfl) | rfl <;> cases hc
      · rintro rfl
        rcases hc with hc | hc <;> cases hc
  | text s => exact ⟨'"', _, rfl, rfl, by decide⟩
  | array => exact ⟨'[', _, rfl, rfl, by decide⟩
  | object => exact ⟨'\x7b', _, rfl, rfl, by decide⟩

/-! ### Items -/

theorem readItems_last {fuel : Nat} {cs rest : List Char} {item : Json}
    (h : readValue fuel cs = some (item, ']' :: rest)) :
    readItems (fuel + 1) cs = some ([item], rest) := by
  rw [readItems, h]
  rfl

theorem readItems_more {fuel : Nat} {cs rest : List Char} {item : Json}
    (h : readValue fuel cs = some (item, ',' :: rest)) :
    readItems (fuel + 1) cs =
      (readItems fuel rest).map fun (items, rest) => (item :: items, rest) := by
  rw [readItems, h]
  rfl

theorem readItems_print {items : List Json} (hne : items ≠ []) (h : ∀ v ∈ items, ReadsBack v)
    {fuel : Nat} (hfuel : 2 * (printItems items).length ≤ fuel) (rest : List Char) :
    readItems fuel (printItems items ++ rest) = some (items, rest) := by
  induction items generalizing fuel with
  | nil => exact absurd rfl hne
  | cons item items ih =>
      obtain ⟨hitem, hitems⟩ := List.forall_mem_cons.1 h
      cases items with
      | nil =>
          rw [printItems, List.length_append, List.length_singleton] at hfuel
          obtain ⟨fuel, rfl⟩ := Nat.exists_eq_add_one.2 (show 0 < fuel by omega)
          rw [printItems, List.append_assoc]
          exact readItems_last (hitem fuel _ (by omega) (stops_cons (by decide) rest))
      | cons next more =>
          rw [printItems_cons, List.length_append, List.length_cons] at hfuel
          obtain ⟨fuel, rfl⟩ := Nat.exists_eq_add_one.2 (show 0 < fuel by omega)
          have hread := hitem fuel (',' :: (printItems (next :: more) ++ rest)) (by omega)
            (stops_cons (by decide) _)
          rw [printItems_cons, List.append_assoc, List.cons_append, readItems_more hread,
            ih (List.cons_ne_nil _ _) hitems (by omega)]
          rfl

/-! ### Members -/

theorem readMembers_name (s : String) (fuel : Nat) (cs : List Char) :
    readMembers (fuel + 1) (printString (some s) ++ ':' :: cs) =
      match readValue fuel cs with
      | none => none
      | some (value, rest) =>
        match skipSpaces rest with
        | '\x7d' :: rest => some ([(some s, value)], rest)
        | ',' :: rest =>
          (readMembers fuel rest).map fun (members, rest) => ((some s, value) :: members, rest)
        | _ => none := by
  have hstring := readString_print s (':' :: cs)
  have hprint : printString (some s) ++ ':' :: cs =
      '"' :: (s.toList.flatMap escapeChar ++ '"' :: ':' :: cs) := by
    rw [printString_some, List.cons_append, List.append_assoc]
    rfl
  rw [hprint, readMembers, skipSpaces_cons (by decide)]
  simp only [hstring]
  rw [skipSpaces_cons (by decide)]
  rfl

theorem readMembers_print {members : List (Option String × Json)} (hne : members ≠ [])
    (hnames : ∀ m ∈ members, m.1.isSome = true) (h : ∀ m ∈ members, ReadsBack m.2)
    {fuel : Nat} (hfuel : 2 * (printMembers members).length ≤ fuel) (rest : List Char) :
    readMembers fuel (printMembers members ++ rest) = some (members, rest) := by
  induction members generalizing fuel with
  | nil => exact absurd rfl hne
  | cons member members ih =>
      obtain ⟨name, value⟩ := member
      obtain ⟨hname, hmore⟩ := List.forall_mem_cons.1 hnames
      obtain ⟨hvalue, hvalues⟩ := List.forall_mem_cons.1 h
      obtain ⟨s, rfl⟩ := Option.isSome_iff_exists.1 hname
      cases members with
      | nil =>
          rw [printMembers, List.length_append, List.length_cons, List.length_append] at hfuel
          obtain ⟨fuel, rfl⟩ := Nat.exists_eq_add_one.2 (show 0 < fuel by omega)
          have hread := hvalue fuel ('\x7d' :: rest) (by simp only; omega) (stops_cons (by decide) rest)
          rw [printMembers, List.append_assoc, List.cons_append, List.append_assoc,
            List.singleton_append, readMembers_name, hread]
          rfl
      | cons next more =>
          rw [printMembers_cons, List.length_append, List.length_cons, List.length_append,
            List.length_cons] at hfuel
          obtain ⟨fuel, rfl⟩ := Nat.exists_eq_add_one.2 (show 0 < fuel by omega)
          have hread := hvalue fuel (',' :: (printMembers (next :: more) ++ rest))
            (by simp only; omega) (stops_cons (by decide) _)
          simp only at hread
          have hlength : 2 * (printMembers (next :: more)).length ≤ fuel := by omega
          rw [printMembers_cons, List.append_assoc, List.cons_append, List.append_assoc,
            List.cons_append, readMembers_name, hread]
          show (readMembers fuel _).map _ = _
          rw [ih (List.cons_ne_nil _ _) hmore hvalues hlength]
          rfl

/-- What is printed takes at least one call. -/
theorem readsBack_of_succ {v : Json} (h : IsExact v)
    (hread : ∀ fuel rest, 2 * v.print.length ≤ fuel + 1 → Stops rest →
      readValue (fuel + 1) (v.print ++ rest) = some (v, rest)) : ReadsBack v := by
  intro fuel rest hfuel hrest
  obtain ⟨c, cs, hcs, -⟩ := exists_print_cons h
  have hlength : 0 < v.print.length := by
    rw [hcs]
    exact Nat.succ_pos _
  cases fuel with
  | zero => omega
  | succ fuel => exact hread fuel rest hfuel hrest

theorem readsBack_int {n : Int} (h : fits n = true) : ReadsBack (.int n) := by
  refine readsBack_of_succ (.int h) ?_
  intro fuel rest _ hrest
  have hread := readNumber_printInt h hrest
  obtain ⟨c, cs, hcs, hc⟩ := printInt_cases n
  rw [hcs, List.cons_append] at hread
  rw [print, hcs, List.cons_append, readValue_number hc, hread]

theorem readsBack_text (s : String) : ReadsBack (.text s) := by
  refine readsBack_of_succ (.text s) ?_
  intro fuel rest _ _
  have hprint : (Json.text s).print = '"' :: (s.toList.flatMap escapeChar ++ ['"']) := rfl
  rw [hprint, List.cons_append, List.append_assoc, List.singleton_append, readValue,
    skipSpaces_cons (by decide)]
  simp only [readString_print s rest, Option.map_some]
  rfl

theorem readsBack_array {items : List Json} (h : ∀ v ∈ items, IsExact v)
    (hitems : ∀ v ∈ items, ReadsBack v) : ReadsBack (.array items) := by
  refine readsBack_of_succ (.array h) ?_
  intro fuel rest hfuel _
  rw [print, List.length_cons] at hfuel
  rw [print, List.cons_append]
  cases items with
  | nil => rfl
  | cons item items =>
      -- A list with items does not close right behind its bracket.
      have hopen : (skipSpaces (printItems (item :: items) ++ rest)).head? ≠ some ']' := by
        obtain ⟨c, cs, hcs, hspace, hc⟩ := exists_print_cons (h item List.mem_cons_self)
        obtain ⟨tail, htail⟩ := exists_printItems_cons item items
        rw [htail, hcs, List.cons_append, List.cons_append, skipSpaces_cons hspace]
        simpa using hc
      rw [readValue_array hopen, readItems_print (List.cons_ne_nil _ _) hitems (by omega)]
      rfl

theorem readsBack_object {members : List (Option String × Json)}
    (hnames : ∀ m ∈ members, m.1.isSome = true) (hvalues : ∀ m ∈ members, IsExact m.2)
    (h : ∀ m ∈ members, ReadsBack m.2) : ReadsBack (.object members) := by
  refine readsBack_of_succ (.object hnames hvalues) ?_
  intro fuel rest hfuel _
  rw [print, List.length_cons] at hfuel
  rw [print, List.cons_append]
  cases members with
  | nil => rfl
  | cons member members =>
      have hopen : (skipSpaces (printMembers (member :: members) ++ rest)).head? ≠ some '\x7d' := by
        obtain ⟨s, hs⟩ := Option.isSome_iff_exists.1 (hnames member List.mem_cons_self)
        obtain ⟨tail, htail⟩ := exists_printMembers_cons member members
        rw [htail, hs, printString_some, List.cons_append, List.cons_append,
          skipSpaces_cons (by decide)]
        simp
      rw [readValue_object hopen, readMembers_print (List.cons_ne_nil _ _) hnames h (by omega)]
      rfl

/-- An exact value is read as it is written, whatever follows it. -/
theorem readValue_print {v : Json} (h : IsExact v) : ReadsBack v := by
  induction h with
  | null => exact readsBack_of_succ .null fun fuel rest _ _ => rfl
  | bool b =>
      refine readsBack_of_succ (.bool b) fun fuel rest _ _ => ?_
      cases b with
      | true => rfl
      | false => rfl
  | int hfits => exact readsBack_int hfits
  | text s => exact readsBack_text s
  | array h ih => exact readsBack_array h ih
  | object names values ih => exact readsBack_object names values ih

/-- The text of an exact value is read as that value. -/
theorem read_compress {v : Json} (h : IsExact v) : read v.compress = some v := by
  have hread := readValue_print h (2 * v.print.length + 2) [] (by omega) stops_nil
  rw [List.append_nil] at hread
  rw [read, compress, String.toList_ofList, String.length_ofList, hread]
  rfl

/-! ## Lines -/

/-- Is the character no control character below the space? -/
def isVisible (c : Char) : Bool :=
  decide (0x20 ≤ c.toNat)

theorem isVisible_hexDigit : ∀ n < 16, isVisible (hexDigit n) = true := by
  decide

theorem isVisible_of_isDigit {c : Char} (h : c.isDigit = true) : isVisible c = true := by
  rw [Char.isDigit, Bool.and_eq_true, decide_eq_true_eq] at h
  have hzero : '0'.toNat ≤ c.toNat := h.1
  exact decide_eq_true (Nat.le_trans (by decide) hzero)

theorem all_isVisible_escapeChar (c : Char) : (escapeChar c).all isVisible = true := by
  rw [escapeChar]
  split_ifs with hquote hslash hb hf hn hr ht hcontrol
  · rfl
  · rfl
  · rfl
  · rfl
  · rfl
  · rfl
  · rfl
  · have hhigh := isVisible_hexDigit (c.toNat / 16) (by omega)
    have hlow := isVisible_hexDigit (c.toNat % 16) (by omega)
    show ([hexDigit (c.toNat / 16), hexDigit (c.toNat % 16)].all isVisible) = true
    simp [hhigh, hlow]
  · simpa [isVisible] using hcontrol

theorem all_isVisible_printString (s : String) : (printString (some s)).all isVisible = true := by
  have hescaped : (s.toList.flatMap escapeChar).all isVisible = true := by
    rw [List.all_flatMap, List.all_eq_true]
    intro c _
    exact all_isVisible_escapeChar c
  rw [printString_some, List.all_cons, List.all_append, hescaped]
  rfl

theorem all_isVisible_printInt (n : Int) : (printInt n).all isVisible = true := by
  have hdigits : (Nat.toDigits 10 n.natAbs).all isVisible = true := by
    rw [List.all_eq_true]
    intro c hc
    exact isVisible_of_isDigit (isDigit_of_mem_toDigits hc)
  rw [printInt]
  split
  case isTrue =>
    rw [List.all_cons, hdigits]
    rfl
  case isFalse => exact hdigits

theorem all_isVisible_printItems {items : List Json}
    (h : ∀ v ∈ items, v.print.all isVisible = true) : (printItems items).all isVisible = true := by
  induction items with
  | nil => rfl
  | cons item items ih =>
      obtain ⟨hitem, hitems⟩ := List.forall_mem_cons.1 h
      cases items with
      | nil =>
          rw [printItems, List.all_append, hitem]
          rfl
      | cons next more =>
          rw [printItems_cons, List.all_append, List.all_cons, hitem, ih hitems]
          rfl

theorem all_isVisible_printMembers {members : List (Option String × Json)}
    (hnames : ∀ m ∈ members, m.1.isSome = true)
    (h : ∀ m ∈ members, m.2.print.all isVisible = true) :
    (printMembers members).all isVisible = true := by
  induction members with
  | nil => rfl
  | cons member members ih =>
      obtain ⟨name, value⟩ := member
      obtain ⟨hname, hmore⟩ := List.forall_mem_cons.1 hnames
      obtain ⟨hvalue, hvalues⟩ := List.forall_mem_cons.1 h
      obtain ⟨s, rfl⟩ := Option.isSome_iff_exists.1 hname
      cases members with
      | nil =>
          rw [printMembers, List.all_append, List.all_cons, List.all_append,
            all_isVisible_printString, hvalue]
          rfl
      | cons next more =>
          rw [printMembers_cons, List.all_append, List.all_cons, List.all_append, List.all_cons,
            all_isVisible_printString, hvalue, ih hmore hvalues]
          rfl

/-- Nothing that is printed is a control character. -/
theorem all_isVisible_print {v : Json} (h : IsExact v) : v.print.all isVisible = true := by
  induction h with
  | null => rfl
  | bool b =>
      cases b with
      | true => rfl
      | false => rfl
  | int => exact all_isVisible_printInt _
  | text s => exact all_isVisible_printString s
  | array _ ih =>
      rw [print, List.all_cons, all_isVisible_printItems ih]
      rfl
  | object names _ ih =>
      rw [print, List.all_cons, all_isVisible_printMembers names ih]
      rfl

end Json

end ChartLint
