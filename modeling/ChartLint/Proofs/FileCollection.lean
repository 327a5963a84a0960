import ChartLint.Files.Collect
import ChartLint.Proofs.PathResolution
import ChartLint.Proofs.SortedDistinct
import Mathlib.Data.List.Sort
import Mathlib.Data.String.Basic

/-!
# Which files are collected

Collecting takes the files that are given, and the scripts below the directories that are given.  A
script is passed over exactly if it or a directory on the way to it is excluded, the directory that
was given apart (`Chosen`).

*Order.*  Paths are ordered by their components, so the components of the collected paths are the
sorted components of all paths that were found (`map_components_collect`).  They increase strictly,
and they are told by what is among them, not by the order in which the paths were given.

*Walking.*  What the walk over a directory finds is below it under names that are not excluded
(`exists_names_of_mem_scripts`), and a file that such names lead to is found
(`below_mem_scripts`).
-/

namespace ChartLint

/-! ## The order of paths -/

namespace Component

theorem eq_of_rank_name {a b : Component} (hrank : a.rank = b.rank) (hname : a.name = b.name) :
    a = b := by
  cases a <;> cases b <;> simp_all [rank, name]

theorem lt_iff {a b : Component} : a < b ↔ a.rank < b.rank ∨ (a.rank = b.rank ∧ a.name < b.name) :=
  Iff.rfl

instance : IsStrictTotalOrder Component (· < ·) where
  irrefl a := by
    rw [lt_iff]
    rintro (h | ⟨-, h⟩)
    · exact Nat.lt_irrefl _ h
    · exact String.lt_irrefl _ h
  trans a b c := by
    rw [lt_iff, lt_iff, lt_iff]
    rintro (h | ⟨h, hn⟩) (h' | ⟨h', hn'⟩)
    · exact .inl (Nat.lt_trans h h')
    · exact .inl (h' ▸ h)
    · exact .inl (h ▸ h')
    · exact .inr ⟨h.trans h', String.lt_trans hn hn'⟩
  trichotomous a b h h' := by
    rw [lt_iff, not_or, not_and] at h h'
    have hrank : a.rank = b.rank := by omega
    exact eq_of_rank_name hrank
      (String.le_antisymm (String.not_lt.1 (h'.2 hrank.symm)) (String.not_lt.1 (h.2 hrank)))

end Component

namespace Path

theorem components_lt_trans (a b c : List Component) (h : a < b) (h' : b < c) : a < c :=
  List.lt_trans h h'

theorem components_trichotomy (a b : List Component) (h : ¬ a < b) (h' : ¬ b < a) : a = b :=
  List.le_antisymm (List.not_lt.1 h') (List.not_lt.1 h)

theorem lt_asymm (a b : Path) (h : a < b) : ¬ b < a :=
  List.lt_asymm h

/-- What is between two paths, or beside them, is behind the first or in front of the second. -/
theorem lt_or_lt_of_lt (a b c : Path) (h : a < b) : a < c ∨ c < b := by
  by_cases hac : a < c
  · exact .inl hac
  · by_cases hca : c < a
    · exact .inr (components_lt_trans _ _ _ hca h)
    · have hsame : a.components = c.components := components_trichotomy _ _ hac hca
      right
      show c.components < b.components
      rw [← hsame]
      exact h

end Path

variable {fs : FileSystem} {paths patterns : List String}

/-- Collecting sorts what was found and drops repetitions. -/
theorem collect_eq_sortedDistinct (fs : FileSystem) (paths patterns : List String) :
    fs.collect paths patterns =
      sortedDistinct (paths.flatMap fun a => fs.scriptsAt patterns ⟨a⟩) :=
  (sortedDistinct_eq Path.lt_asymm Path.lt_or_lt_of_lt _).symm

/-- The components of the collected paths are the sorted components of what was found. -/
theorem map_components_collect (fs : FileSystem) (paths patterns : List String) :
    (fs.collect paths patterns).map (·.components) =
      Sorted.ofList ((paths.flatMap fun a => fs.scriptsAt patterns ⟨a⟩).map (·.components)) :=
  Sorted.map_ofList Path.components (fun _ _ => Iff.rfl) _

theorem pairwise_components_collect (fs : FileSystem) (paths patterns : List String) :
    ((fs.collect paths patterns).map (·.components)).Pairwise (· < ·) := by
  rw [map_components_collect]
  exact Sorted.pairwise_ofList Path.components_lt_trans Path.components_trichotomy _

theorem mem_components_collect {cs : List Component} :
    cs ∈ (fs.collect paths patterns).map (·.components) ↔
      ∃ p, (∃ a ∈ paths, p ∈ fs.scriptsAt patterns ⟨a⟩) ∧ p.components = cs := by
  rw [map_components_collect, Sorted.mem_ofList Path.components_trichotomy, List.mem_map]
  simp only [List.mem_flatMap]

/-! ## Walking a directory -/

namespace Listing

/-- All entries of a directory, and of the directories in it, have names. -/
def IsNamed : Listing → Prop
  | .empty => True
  | .file name _ rest => IsName name ∧ rest.IsNamed
  | .directory name inner rest => IsName name ∧ inner.IsNamed ∧ rest.IsNamed

instance decidableIsNamed : (l : Listing) → Decidable l.IsNamed
  | .empty => .isTrue trivial
  | .file name _ rest =>
    have := decidableIsNamed rest
    inferInstanceAs (Decidable (IsName name ∧ rest.IsNamed))
  | .directory name inner rest =>
    have := decidableIsNamed inner
    have := decidableIsNamed rest
    inferInstanceAs (Decidable (IsName name ∧ inner.IsNamed ∧ rest.IsNamed))

theorem IsNamed.of_get? {l inner : Listing} (h : l.IsNamed) {name : String}
    (hget : l.get? name = some (.directory inner)) : inner.IsNamed := by
  induction l with
  | empty => cases hget
  | file n content rest ih =>
      rw [get?] at hget
      split at hget
      · cases hget
      · exact ih h.2 hget
  | directory n entries rest _ ih =>
      rw [get?] at hget
      split at hget
      · obtain rfl : entries = inner := Entry.directory.inj (Option.some.inj hget)
        exact h.2.1
      · exact ih h.2.2 hget

theorem IsNamed.of_find? {l inner : Listing} (h : l.IsNamed) {names : List String}
    (hfind : l.find? names = some (.directory inner)) : inner.IsNamed := by
  induction names generalizing l with
  | nil =>
      obtain rfl : l = inner := Entry.directory.inj (Option.some.inj hfind)
      exact h
  | cons name names ih =>
      rw [find?] at hfind
      cases hget : l.get? name with
      | none =>
          rw [hget] at hfind
          cases hfind
      | some entry =>
          rw [hget] at hfind
          cases entry with
          | file content =>
              dsimp only at hfind
              split at hfind <;> cases hfind
          | directory next => exact ih (h.of_get? hget) hfind

/-- No path on the way from a directory along names is excluded, the directory itself apart. -/
def KeepsTo (patterns : List String) (base : Path) (names : List String) : Prop :=
  ∀ front, front ≠ [] → front <+: names → isExcluded patterns (base.below front) = false

theorem KeepsTo.cons {patterns : List String} {base : Path} {name : String} {names : List String} :
    KeepsTo patterns base (name :: names) ↔
      isExcluded patterns (base.join ⟨name⟩) = false ∧ KeepsTo patterns (base.join ⟨name⟩) names := by
  constructor
  · intro h
    refine ⟨h [name] (List.cons_ne_nil _ _) ⟨names, rfl⟩, fun front _ hfront => ?_⟩
    exact h (name :: front) (List.cons_ne_nil _ _) (List.cons_prefix_cons.2 ⟨rfl, hfront⟩)
  · rintro ⟨hname, hnames⟩ front hne hfront
    cases front with
    | nil => exact absurd rfl hne
    | cons first front =>
        obtain ⟨rfl, hbehind⟩ := List.cons_prefix_cons.1 hfront
        cases front with
        | nil => exact hname
        | cons second front => exact hnames (second :: front) (List.cons_ne_nil _ _) hbehind

theorem keepsTo_nil (patterns : List String) (base : Path) : KeepsTo patterns base [] :=
  fun _ hne hfront => absurd (List.prefix_nil.1 hfront) hne

/-- What the walk over a directory finds is below it, and nothing on the way is excluded. -/
theorem exists_names_of_mem_scripts {l : Listing} (h : l.IsNamed) {base p : Path}
    (hp : p ∈ l.scripts patterns base) :
    ∃ names, names ≠ [] ∧ (∀ n ∈ names, IsName n) ∧ p = base.below names ∧ p.isScript = true ∧
      KeepsTo patterns base names := by
  induction l generalizing base with
  | empty => cases hp
  | file name content rest ih =>
      obtain ⟨hname, hrest⟩ := h
      rw [scripts] at hp
      rcases List.mem_append.1 hp with hp | hp
      · split at hp
        case isTrue hkept =>
          rw [Bool.and_eq_true, Bool.not_eq_true'] at hkept
          obtain rfl := List.mem_singleton.1 hp
          exact ⟨[name], List.cons_ne_nil _ _, List.forall_mem_singleton.2 hname, rfl, hkept.2,
            KeepsTo.cons.2 ⟨hkept.1, keepsTo_nil patterns _⟩⟩
        case isFalse => cases hp
      · exact ih hrest hp
  | directory name inner rest ihinner ihrest =>
      obtain ⟨hname, hinner, hrest⟩ := h
      rw [scripts] at hp
      rcases List.mem_append.1 hp with hp | hp
      · split at hp
        case isTrue => cases hp
        case isFalse hkept =>
          obtain ⟨names, hne, hnames, rfl, hscript, hkeeps⟩ := ihinner hinner hp
          refine ⟨name :: names, List.cons_ne_nil _ _, List.forall_mem_cons.2 ⟨hname, hnames⟩, rfl,
            hscript, ?_⟩
          exact KeepsTo.cons.2 ⟨by simpa using hkept, hkeeps⟩
      · exact ihrest hrest hp

theorem file_mem_scripts {l : Listing} {name : String} {content : ByteArray}
    (hget : l.get? name = some (.file content)) {base : Path}
    (hkept : isExcluded patterns (base.join ⟨name⟩) = false)
    (hscript : (base.join ⟨name⟩).isScript = true) : base.join ⟨name⟩ ∈ l.scripts patterns base := by
  induction l with
  | empty => cases hget
  | file n c rest ih =>
      rw [get?] at hget
      rw [scripts, List.mem_append]
      split at hget
      next heq =>
        subst heq
        left
        simp [hkept, hscript]
      next => exact .inr (ih hget)
  | directory n inner rest _ ih =>
      rw [get?] at hget
      rw [scripts, List.mem_append]
      split at hget
      · cases hget
      · exact .inr (ih hget)

theorem mem_scripts_of_directory {l inner : Listing} {name : String}
    (hget : l.get? name = some (.directory inner)) {base p : Path}
    (hkept : isExcluded patterns (base.join ⟨name⟩) = false)
    (hp : p ∈ inner.scripts patterns (base.join ⟨name⟩)) : p ∈ l.scripts patterns base := by
  induction l with
  | empty => cases hget
  | file n c rest ih =>
      rw [get?] at hget
      rw [scripts, List.mem_append]
      split at hget
      · cases hget
      · exact .inr (ih hget)
  | directory n entries rest _ ih =>
      rw [get?] at hget
      rw [scripts, List.mem_append]
      split at hget
      next heq =>
        subst heq
        obtain rfl : entries = inner := Entry.directory.inj (Option.some.inj hget)
        left
        simpa [hkept] using hp
      next => exact .inr (ih hget)

end Listing

/-- A file that names lead to from a directory is found if nothing on the way is excluded. -/
theorem FileSystem.below_mem_scripts {root l : Listing} {place : List String}
    (hplace : root.find? place.reverse = some (.directory l)) {names : List String}
    (hne : names ≠ []) (hnames : ∀ n ∈ names, IsName n) {q : List String} {content : ByteArray}
    (hfollow : follow root place names = .ok (q, .file content)) {base : Path}
    (hscript : (base.below names).isScript = true) (hkeeps : Listing.KeepsTo patterns base names) :
    base.below names ∈ l.scripts patterns base := by
  -- Along the names the walk, the path and the place go down together.
  induction names generalizing place l base with
  | nil => exact absurd rfl hne
  | cons name names ih =>
      obtain ⟨hname, hnames⟩ := List.forall_mem_cons.1 hnames
      obtain ⟨hkept, hkeeps⟩ := Listing.KeepsTo.cons.1 hkeeps
      obtain ⟨hget, hfollow⟩ := follow_cons hplace hname hfollow
      cases hentry : l.get? name with
      | none =>
          rw [hentry] at hget
          cases names <;> rw [follow, hget] at hfollow <;> cases hfollow
      | some entry =>
          rw [hentry] at hget
          cases names with
          | nil =>
              rw [follow, hget] at hfollow
              obtain ⟨-, rfl⟩ := Prod.mk.inj (Except.ok.inj hfollow)
              exact Listing.file_mem_scripts hentry hkept hscript
          | cons next names =>
              cases entry with
              | file content =>
                  rw [follow, hget] at hfollow
                  cases hfollow
              | directory inner =>
                  exact Listing.mem_scripts_of_directory hentry hkept
                    (ih hget (List.cons_ne_nil _ _) hnames hfollow hscript hkeeps)

/-! ## The main result -/

namespace FileSystem

/-- The paths that are to be collected. -/
inductive Chosen (fs : FileSystem) (paths patterns : List String) : Path → Prop where
  /-- A file that is given, whatever its name is. -/
  | file {a : String} (ha : a ∈ paths) (hfile : fs.isFile ⟨a⟩ = true) : Chosen fs paths patterns ⟨a⟩
  /-- A script below a directory that is given, if nothing on the way to it is excluded. -/
  | script {a : String} (ha : a ∈ paths) (hdirectory : (fs.directory? ⟨a⟩).isSome = true)
      {names : List String} (hne : names ≠ []) (hnames : ∀ n ∈ names, IsName n)
      (hfile : fs.isFile (Path.below ⟨a⟩ names) = true)
      (hscript : (Path.below ⟨a⟩ names).isScript = true)
      (hkeeps : Listing.KeepsTo patterns ⟨a⟩ names) : Chosen fs paths patterns (Path.below ⟨a⟩ names)

variable {fs : FileSystem} {paths patterns : List String} {p : Path}

theorem isFile_iff : fs.isFile p = true ↔ ∃ q content, fs.resolve p = .ok (q, .file content) := by
  rw [isFile]
  cases fs.resolve p with
  | error e => simp
  | ok reached =>
      obtain ⟨q, entry⟩ := reached
      cases entry <;> simp

theorem isNamed_of_directory? (h : fs.root.IsNamed) {l : Listing} (hl : fs.directory? p = some l) :
    l.IsNamed := by
  obtain ⟨place, hplace, -⟩ := follow_below hl
  exact h.of_find? hplace

/-- What is found at the paths that are given is what is to be collected. -/
theorem exists_mem_scriptsAt_iff (h : fs.root.IsNamed) :
    (∃ a ∈ paths, p ∈ fs.scriptsAt patterns ⟨a⟩) ↔ fs.Chosen paths patterns p := by
  constructor
  · rintro ⟨a, ha, hp⟩
    rw [scriptsAt] at hp
    split at hp
    case isTrue hfile =>
      obtain rfl := List.mem_singleton.1 hp
      exact .file ha hfile
    case isFalse =>
      cases hl : fs.directory? ⟨a⟩ with
      | none =>
          rw [hl] at hp
          cases hp
      | some l =>
          rw [hl] at hp
          obtain ⟨hp, hfile⟩ := List.mem_filter.1 hp
          obtain ⟨names, hne, hnames, rfl, hscript, hkeeps⟩ :=
            Listing.exists_names_of_mem_scripts (isNamed_of_directory? h hl) hp
          exact .script ha (hl ▸ rfl) hne hnames hfile hscript hkeeps
  · rintro (⟨ha, hfile⟩ | ⟨ha, hdirectory, hne, hnames, hfile, hscript, hkeeps⟩)
    case file a =>
      refine ⟨a, ha, ?_⟩
      rw [scriptsAt, if_pos hfile]
      exact List.mem_singleton_self _
    case script a names =>
      refine ⟨a, ha, ?_⟩
      obtain ⟨l, hl⟩ := Option.isSome_iff_exists.1 hdirectory
      -- A path that leads to a directory does not lead to a file.
      have hnot : ¬ fs.isFile ⟨a⟩ = true := by
        intro ha
        obtain ⟨q, content, hq⟩ := isFile_iff.1 ha
        rw [directory?, hq] at hl
        cases hl
      rw [scriptsAt, if_neg hnot, hl]
      refine List.mem_filter.2 ⟨?_, hfile⟩
      obtain ⟨place, hplace, hbelow⟩ := follow_below hl
      obtain ⟨q, content, hq⟩ := isFile_iff.1 hfile
      obtain ⟨-, hfollow⟩ := follow_of_resolve hq
      rw [hbelow names hnames hne] at hfollow
      exact below_mem_scripts hplace hne hnames hfollow hscript hkeeps

theorem isExcluded_mono {patterns patterns' : List String} (h : ∀ x ∈ patterns, x ∈ patterns')
    (hp : isExcluded patterns p = true) : isExcluded patterns' p = true := by
  rw [isExcluded] at hp ⊢
  cases hname : p.fileName? with
  | none =>
      rw [hname] at hp
      cases hp
  | some name =>
      rw [hname] at hp
      obtain ⟨pattern, hmem, hmatch⟩ := List.any_eq_true.1 hp
      exact List.any_eq_true.2 ⟨pattern, h pattern hmem, hmatch⟩

/-- With fewer patterns nothing less is to be collected. -/
theorem Chosen.mono {patterns patterns' : List String} (h : ∀ x ∈ patterns, x ∈ patterns')
    (hp : fs.Chosen paths patterns' p) : fs.Chosen paths patterns p := by
  cases hp with
  | file ha hfile => exact .file ha hfile
  | script ha hdirectory hne hnames hfile hscript hkeeps =>
      refine .script ha hdirectory hne hnames hfile hscript fun front hfront hprefix => ?_
      rw [← Bool.not_eq_true]
      intro hexcluded
      have hkept := hkeeps front hfront hprefix
      rw [isExcluded_mono h hexcluded] at hkept
      cases hkept

theorem Chosen.congr {paths paths' : List String} (h : ∀ a, a ∈ paths ↔ a ∈ paths')
    (hp : fs.Chosen paths patterns p) : fs.Chosen paths' patterns p := by
  cases hp with
  | file ha hfile => exact .file ((h _).1 ha) hfile
  | script ha hdirectory hne hnames hfile hscript hkeeps =>
      exact .script ((h _).1 ha) hdirectory hne hnames hfile hscript hkeeps

/-- Collecting finds what is to be collected, in order.  Paths are told apart by their components. -/
structure CollectsChosen (fs : FileSystem) (paths patterns : List String) : Prop where
  /-- What was found is sorted, and repetitions are dropped. -/
  sorted : fs.collect paths patterns =
    sortedDistinct (paths.flatMap fun a => fs.scriptsAt patterns ⟨a⟩)
  /-- The paths increase. -/
  increasing : (fs.collect paths patterns).Pairwise (· < ·)
  /-- No two of them have the same components. -/
  distinct : ((fs.collect paths patterns).map (·.components)).Nodup
  /-- They are those to be collected. -/
  chosen : ∀ cs, (∃ p ∈ fs.collect paths patterns, p.components = cs) ↔
    ∃ p, fs.Chosen paths patterns p ∧ p.components = cs
  /-- They do not depend on the order and the number of times in which paths are given. -/
  given : ∀ paths', (∀ a, a ∈ paths ↔ a ∈ paths') →
    (fs.collect paths' patterns).map (·.components) = (fs.collect paths patterns).map (·.components)
  /-- With more patterns none is added. -/
  fewer : ∀ patterns', (∀ x ∈ patterns, x ∈ patterns') →
    ∀ p ∈ fs.collect paths patterns', ∃ q ∈ fs.collect paths patterns, q.components = p.components

/-- Whatever the files are, collecting finds what is to be collected. -/
theorem collects_chosen (fs : FileSystem) (h : fs.root.IsNamed) (paths patterns : List String) :
    fs.CollectsChosen paths patterns where
  sorted := collect_eq_sortedDistinct fs paths patterns
  increasing := by
    have h := pairwise_components_collect fs paths patterns
    rw [List.pairwise_map] at h
    exact h
  distinct := by
    refine (pairwise_components_collect fs paths patterns).imp ?_
    rintro cs _ hlt rfl
    exact List.lt_irrefl cs hlt
  chosen cs := by
    rw [← List.mem_map, mem_components_collect]
    simp only [exists_mem_scriptsAt_iff h]
  given paths' hpaths := by
    refine (pairwise_components_collect fs paths' patterns).eq_of_mem_iff
      (pairwise_components_collect fs paths patterns) fun cs => ?_
    rw [mem_components_collect, mem_components_collect]
    simp only [exists_mem_scriptsAt_iff h]
    constructor
    · rintro ⟨p, hp, hcs⟩
      exact ⟨p, hp.congr fun a => (hpaths a).symm, hcs⟩
    · rintro ⟨p, hp, hcs⟩
      exact ⟨p, hp.congr hpaths, hcs⟩
  fewer patterns' hpatterns p hp := by
    obtain ⟨p', hp', hsame⟩ := mem_components_collect.1 (List.mem_map_of_mem hp)
    have hchosen := ((exists_mem_scriptsAt_iff h).1 hp').mono hpatterns
    have hmem := mem_components_collect.2 ⟨p', (exists_mem_scriptsAt_iff h).2 hchosen, hsame⟩
    exact List.mem_map.1 hmem

/-- Scripts beside a directory of scripts of somebody else. -/
def vendorTree : FileSystem where
  root :=
    .directory "scripts"
      (.file "trend.pine" .empty
        (.directory "vendor" (.file "lib.pine" .empty .empty) (.file "notes.txt" .empty .empty)))
      .empty
  workingDirectory := []

/-- A file that is named is collected even if it is no script, and the script below the directory
under each of the two paths by which the directory is named. -/
theorem collects_chosen_vendor :
    vendorTree.root.IsNamed ∧
      vendorTree.collect ["scripts/notes.txt", "./scripts", "scripts/"] ["vendor"] =
        [⟨"./scripts/trend.pine"⟩, ⟨"scripts/notes.txt"⟩, ⟨"scripts/trend.pine"⟩] ∧
      vendorTree.CollectsChosen ["scripts/notes.txt", "./scripts", "scripts/"] ["vendor"] :=
  ⟨by decide, by decide +kernel, collects_chosen vendorTree (by decide) _ _⟩

end FileSystem

end ChartLint
