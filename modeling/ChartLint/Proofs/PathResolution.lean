import ChartLint.Files.Tree

/-!
# Paths below a directory

A name may be put behind a path, and another one behind that.  The segments of the path that comes
out are those of the first path, without what is behind its last slash if this is nothing, and then
the names (`exists_segments_below`).  Segments are followed one after the other, so the path leads
where the names lead from the place of the first path (`follow_below`).

*Names.*  A name is a text that a directory can have an entry under.  It is neither empty nor made of
points that stand for a place, and it has no slash, so it is one segment.
-/

namespace ChartLint

/-- Can there be an entry of this name? -/
structure IsName (name : String) : Prop where
  /-- It is not empty. -/
  ne_empty : name ≠ ""
  /-- It is not the point that stands for the directory itself. -/
  ne_current : name ≠ "."
  /-- It is not the two points that stand for the directory above. -/
  ne_parent : name ≠ ".."
  /-- It has no slash. -/
  slash_not_mem : '/' ∉ name.toList

theorem isName_iff {name : String} :
    IsName name ↔ name ≠ "" ∧ name ≠ "." ∧ name ≠ ".." ∧ '/' ∉ name.toList :=
  ⟨fun h => ⟨h.ne_empty, h.ne_current, h.ne_parent, h.slash_not_mem⟩,
    fun ⟨h, hcurrent, hparent, hslash⟩ => ⟨h, hcurrent, hparent, hslash⟩⟩

instance (name : String) : Decidable (IsName name) :=
  decidable_of_iff _ isName_iff.symm

theorem IsName.isVoid_eq_false {name : String} (h : IsName name) : Path.isVoid name = false := by
  simp [Path.isVoid, h.ne_empty, h.ne_current]

namespace Path

variable {p : Path} {name : String} {names : List String}

/-- Put names behind a path, one after the other. -/
def below (p : Path) (names : List String) : Path :=
  names.foldl (fun q name => q.join ⟨name⟩) p

/-! ## Segments of a path below another one -/

theorem isAbsolute_iff : p.isAbsolute = true ↔ ['/'] <+: p.text.toList := by
  rw [isAbsolute, String.startsWith_string_iff]
  rfl

theorem endsWith_slash_iff : p.text.endsWith "/" = true ↔ ['/'] <:+ p.text.toList := by
  show p.text.toSlice.endsWith "/" = true ↔ _
  rw [String.Slice.endsWith_string_iff, String.copy_toSlice]
  rfl

theorem not_isAbsolute_of_isName (h : IsName name) : (⟨name⟩ : Path).isAbsolute = false := by
  rw [← Bool.not_eq_true, isAbsolute_iff]
  rintro ⟨rest, hrest⟩
  exact h.slash_not_mem (hrest ▸ List.mem_cons_self)

/-- The text of a path without a slash at its end. -/
def stem (p : Path) : List Char :=
  if p.text.endsWith "/" then p.text.toList.dropLast else p.text.toList

theorem toList_eq_stem (p : Path) : p.text.toList = p.stem ∨ p.text.toList = p.stem ++ ['/'] := by
  rw [stem]
  split
  case isTrue hend =>
    obtain ⟨front, hfront⟩ := endsWith_slash_iff.1 hend
    rw [← hfront, List.dropLast_concat]
    exact .inr rfl
  case isFalse => exact .inl rfl

/-- A name is put behind a slash. -/
theorem toList_join (hp : p.text ≠ "") (h : IsName name) :
    (p.join ⟨name⟩).text.toList = p.stem ++ '/' :: name.toList := by
  rw [join, not_isAbsolute_of_isName h, Bool.false_or, decide_eq_false hp, if_neg Bool.false_ne_true,
    stem]
  split
  case isTrue hend =>
    obtain ⟨front, hfront⟩ := endsWith_slash_iff.1 hend
    rw [String.toList_append, ← hfront, List.dropLast_concat, List.append_assoc]
    rfl
  case isFalse => simp

theorem text_join_ne_empty (hp : p.text ≠ "") (h : IsName name) : (p.join ⟨name⟩).text ≠ "" := by
  intro hempty
  have hlist := toList_join hp h
  rw [hempty] at hlist
  exact absurd hlist (by simp)

/-- A path does not end with a slash when a name was put behind it. -/
theorem stem_join (hp : p.text ≠ "") (h : IsName name) :
    (p.join ⟨name⟩).stem = (p.join ⟨name⟩).text.toList := by
  rw [stem, if_neg]
  rw [endsWith_slash_iff, toList_join hp h]
  rintro ⟨front, hfront⟩
  have hlast := congrArg List.getLast? hfront
  cases hc : name.toList.getLast? with
  | none => exact h.ne_empty (String.toList_eq_nil_iff.1 (List.getLast?_eq_none_iff.1 hc))
  | some c =>
      rw [List.getLast?_concat, List.getLast?_append, List.getLast?_cons, hc, Option.getD_some,
        Option.some_or] at hlast
      rw [← Option.some.inj hlast] at hc
      exact h.slash_not_mem (List.mem_of_getLast? hc)

theorem segments_of_toList {front back : List Char} (h : p.text.toList = front ++ '/' :: back) :
    p.segments = (Text.splitAt '/' front).map String.ofList ++
      (Text.splitAt '/' back).map String.ofList := by
  rw [segments, Text.split, h, Text.splitAt_append_cons, List.map_append]

/-- The segments of a path without what is behind its last slash if this is nothing. -/
def stemSegments (p : Path) : List String :=
  (Text.splitAt '/' p.stem).map String.ofList

theorem segments_eq_stemSegments (p : Path) :
    p.segments = p.stemSegments ∨ p.segments = p.stemSegments ++ [""] := by
  rcases p.toList_eq_stem with h | h
  · left
    rw [segments, Text.split, h, stemSegments]
  · right
    exact segments_of_toList h

theorem segments_join (hp : p.text ≠ "") (h : IsName name) :
    (p.join ⟨name⟩).segments = p.stemSegments ++ [name] := by
  rw [segments_of_toList (toList_join hp h), Text.splitAt_of_not_mem h.slash_not_mem, stemSegments,
    List.map_singleton, String.ofList_toList]

theorem stemSegments_join (hp : p.text ≠ "") (h : IsName name) :
    (p.join ⟨name⟩).stemSegments = p.stemSegments ++ [name] := by
  rw [stemSegments, stem_join hp h]
  exact segments_join hp h

theorem isAbsolute_join (hp : p.text ≠ "") (h : IsName name) :
    (p.join ⟨name⟩).isAbsolute = p.isAbsolute := by
  have hlist : p.text.toList ≠ [] := fun hnil => hp (String.toList_eq_nil_iff.1 hnil)
  rw [Bool.eq_iff_iff, isAbsolute_iff, isAbsolute_iff, toList_join hp h]
  rcases p.toList_eq_stem with hstem | hstem
  all_goals
    rw [hstem] at hlist ⊢
    cases hfront : p.stem <;> simp_all

/-- The segments of a path below another one end with the names. -/
theorem segments_below (hp : p.text ≠ "") (hnames : ∀ n ∈ names, IsName n) (hne : names ≠ []) :
    (p.below names).segments = p.stemSegments ++ names ∧ (p.below names).isAbsolute = p.isAbsolute := by
  induction names generalizing p with
  | nil => exact absurd rfl hne
  | cons name names ih =>
      obtain ⟨hname, hnames⟩ := List.forall_mem_cons.1 hnames
      show ((p.join ⟨name⟩).below names).segments = _ ∧ ((p.join ⟨name⟩).below names).isAbsolute = _
      cases names with
      | nil => exact ⟨segments_join hp hname, isAbsolute_join hp hname⟩
      | cons next names =>
          obtain ⟨hsegments, habsolute⟩ :=
            ih (text_join_ne_empty hp hname) hnames (List.cons_ne_nil next names)
          rw [hsegments, habsolute, stemSegments_join hp hname, isAbsolute_join hp hname,
            List.append_assoc, List.singleton_append]
          exact ⟨rfl, rfl⟩

end Path

/-! ## Following names -/

namespace FileSystem

variable {root : Listing} {place : List String}

/-- What segments lead to is there. -/
theorem find?_of_follow {xs : List String} {q : List String} {entry : Entry}
    (h : follow root place xs = .ok (q, entry)) : root.find? q.reverse = some entry := by
  fun_induction follow root place xs <;> simp_all

/-- Segments are followed one after the other. -/
theorem follow_append (root : Listing) (place xs ys : List String) :
    follow root place (xs ++ ys) =
      (follow root place xs).bind fun reached => follow root reached.1 ys := by
  fun_induction follow root place xs with
  | case1 place entry => rfl
  | case2 place hfind =>
      cases ys with
      | nil => simp [follow, hfind, Except.bind]
      | cons segment segments => simp [follow, hfind, Except.bind]
  | _ => simp_all [follow, Except.bind]

/-- A name leads from a directory to what the directory has under the name. -/
theorem find?_concat {names : List String} {l : Listing} (h : root.find? names = some (.directory l))
    (name : String) : root.find? (names ++ [name]) = l.get? name := by
  induction names generalizing root with
  | nil =>
      obtain rfl : root = l := Entry.directory.inj (Option.some.inj h)
      rw [List.nil_append, Listing.find?]
      cases root.get? name with
      | none => rfl
      | some entry => cases entry <;> rfl
  | cons first names ih =>
      rw [Listing.find?] at h
      rw [List.cons_append, Listing.find?]
      cases hfirst : root.get? first with
      | none =>
          rw [hfirst] at h
          cases h
      | some entry =>
          rw [hfirst] at h
          cases entry with
          | file content =>
              dsimp only at h
              split at h <;> cases h
          | directory inner => exact ih h

/-- A name leads to an entry of the directory, and what follows is followed from there. -/
theorem follow_cons {l : Listing} (hplace : root.find? place.reverse = some (.directory l))
    {name : String} (hname : IsName name) {names : List String} {reached : List String × Entry}
    (h : follow root place (name :: names) = .ok reached) :
    root.find? (name :: place).reverse = l.get? name ∧
      follow root (name :: place) names = .ok reached := by
  refine ⟨by rw [List.reverse_cons, find?_concat hplace], ?_⟩
  rw [follow, hplace] at h
  dsimp only at h
  rw [hname.isVoid_eq_false, if_neg Bool.false_ne_true, if_neg hname.ne_parent] at h
  split at h
  · cases h
  · split at h
    · exact h
    · cases h

variable {fs : FileSystem} {p : Path}

/-- A path that leads somewhere has segments that lead there. -/
theorem follow_of_resolve {reached : List String × Entry} (h : fs.resolve p = .ok reached) :
    p.text ≠ "" ∧ follow fs.root (fs.startOf p) p.segments = .ok reached := by
  rw [resolve] at h
  split at h
  · cases h
  next hok =>
    refine ⟨?_, h⟩
    intro hempty
    rw [pathError?, hempty] at hok
    split at hok
    · cases hok
    · cases hok

/-- A slash at the end of a path asks for a directory and leads nowhere else. -/
theorem follow_slash {reached : List String × Entry} (h : follow root place [""] = .ok reached) :
    follow root place [] = .ok reached := by
  rw [follow] at h
  split at h
  · cases h
  · cases h
  · exact h

/-- Where a path leads to a directory, a path below it leads where the names lead from there. -/
theorem follow_below {l : Listing} (h : fs.directory? p = some l) :
    ∃ place, fs.root.find? place.reverse = some (.directory l) ∧
      ∀ names, (∀ n ∈ names, IsName n) → names ≠ [] →
        follow fs.root (fs.startOf (p.below names)) (p.below names).segments =
          follow fs.root place names := by
  rw [directory?] at h
  split at h
  case h_2 => cases h
  case h_1 place l' hresolve =>
    obtain rfl : l' = l := Option.some.inj h
    obtain ⟨hp, hfollow⟩ := follow_of_resolve hresolve
    refine ⟨place, find?_of_follow hfollow, fun names hnames hne => ?_⟩
    obtain ⟨hsegments, habsolute⟩ := Path.segments_below hp hnames hne
    have hstem : follow fs.root (fs.startOf p) p.stemSegments = .ok (place, .directory l') := by
      rcases p.segments_eq_stemSegments with hsame | hslash
      · rw [← hsame, hfollow]
      · rw [hslash, follow_append] at hfollow
        cases hstem : follow fs.root (fs.startOf p) p.stemSegments with
        | error e =>
            rw [hstem] at hfollow
            cases hfollow
        | ok reached =>
            rw [hstem] at hfollow
            have hend := follow_slash hfollow
            rw [follow, find?_of_follow hstem] at hend
            exact hend
    rw [startOf, habsolute, hsegments, follow_append]
    show (follow fs.root (fs.startOf p) p.stemSegments).bind _ = _
    rw [hstem]
    rfl

end FileSystem

end ChartLint
