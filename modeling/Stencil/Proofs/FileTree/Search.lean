import Stencil.FileTree.Search
import Stencil.Proofs.FileTree.Location

/-!
# What a search finds

A search sees a tree only through what is at its locations (`mem_reach_cons`). So a tree that has
the same directories as another and some of its files finds no more than the other does
(`Thins.search_subset`), and it finds each file that is left (`Thins.mem_search`). What is found is
listed once, in the order of the paths.
-/

namespace Stencil

open Stencil.Path

namespace Path

theorem below?_eq_some_iff {l q way : Path} :
    l.below? q = some way ↔ q = l ++ way ∧ way.descends = true := by
  unfold below?
  dsimp only
  constructor
  · intro h
    split at h
    next hbelow =>
      obtain ⟨hbegins, hdescends⟩ := Bool.and_eq_true_iff.mp hbelow
      obtain ⟨rest, rfl⟩ := List.isPrefixOf_iff_prefix.mp hbegins
      rw [List.drop_left] at h hdescends
      obtain rfl := Option.some.inj h
      exact ⟨rfl, hdescends⟩
    · cases h
  · rintro ⟨rfl, hdescends⟩
    have hbegins : l.isPrefixOf (l ++ way) = true :=
      List.isPrefixOf_iff_prefix.mpr (List.prefix_append l way)
    rw [List.drop_left, hbegins, hdescends]
    rfl

/-- What goes on downwards leaves the directories around the working directory. -/
theorem isSurrounding_append {l way : Path} (h : way.descends = true) :
    isSurrounding (l ++ way) = false := by
  cases way with
  | nil => cases h
  | cons part rest =>
    obtain ⟨hempty, hdots⟩ := Bool.and_eq_true_iff.mp h
    have hne : part ≠ dots := by simpa using hdots
    have hroot : l ++ part :: rest ≠ root := by
      intro heq
      have hmem : part ∈ root := heq ▸ List.mem_append_right l (List.mem_cons_self ..)
      obtain rfl := List.mem_singleton.mp hmem
      cases hempty
    simp [isSurrounding, hne, hroot]

/-- The location of a name is in the directory. -/
theorem location_name {p : Path} {name : Text} (h : descends [name] = true) :
    location (p ++ [name]) = location p ++ [name] := by
  have hne : name ≠ dots := by simpa using (Bool.and_eq_true_iff.mp h).2
  rw [location_snoc, next, if_neg hne]

theorem le_trans {p q r : Path} (hpq : p.le q = true) (hqr : q.le r = true) : p.le r = true := by
  simp only [le, Bool.not_eq_true', decide_eq_false_iff_not] at hpq hqr ⊢
  exact @List.le_trans Text _ List.instLE _ _ p q r hpq hqr

theorem le_antisymm {p q : Path} (hpq : p.le q = true) (hqp : q.le p = true) : p = q := by
  simp only [le, Bool.not_eq_true', decide_eq_false_iff_not] at hpq hqp
  exact @List.le_antisymm Text _ _ p q hpq hqp

theorem le_refl (p : Path) : p.le p = true := by
  simp only [le, Bool.not_eq_true', decide_eq_false_iff_not]
  exact List.lt_irrefl p

theorem le_total (p q : Path) : (p.le q || q.le p) = true := by
  simp only [le, Bool.or_eq_true, Bool.not_eq_true', decide_eq_false_iff_not]
  exact List.le_total p q

end Path

namespace FileTree

variable {t t' : FileTree} {p q l : Path}

/-! ## Entries by location -/

/-- Below the directories that are always there, a location holds what is entered for it. -/
theorem mem_entries_iff {e : Entry} {way : Path} (h : way.descends = true) :
    (l ++ way, e) ∈ t.entries ↔ t.get? (l ++ way) = some e := by
  rw [mem_iff_lookup t.nodup, get?, isSurrounding_append h, if_neg Bool.false_ne_true]

theorem mem_names {name : Text} :
    name ∈ t.names l ↔ descends [name] = true ∧ (t.get? (l ++ [name])).isSome = true := by
  unfold names
  rw [List.mem_filterMap]
  constructor
  · rintro ⟨⟨k, e⟩, hmem, hname⟩
    dsimp only at hname
    split at hname
    next found hbelow =>
      obtain rfl := Option.some.inj hname
      obtain ⟨rfl, hdescends⟩ := below?_eq_some_iff.mp hbelow
      exact ⟨hdescends, Option.isSome_iff_exists.mpr ⟨e, (mem_entries_iff hdescends).mp hmem⟩⟩
    · cases hname
  · rintro ⟨hdescends, hsome⟩
    obtain ⟨e, he⟩ := Option.isSome_iff_exists.mp hsome
    refine ⟨(l ++ [name], e), (mem_entries_iff hdescends).mpr he, ?_⟩
    dsimp only
    rw [below?_eq_some_iff.mpr ⟨rfl, hdescends⟩]

theorem mem_directoriesBelow {way : Path} :
    way ∈ t.directoriesBelow l ↔ way.descends = true ∧ t.get? (l ++ way) = some .directory := by
  unfold directoriesBelow
  rw [List.mem_filterMap]
  constructor
  · rintro ⟨⟨k, e⟩, hmem, hway⟩
    dsimp only at hway
    split at hway
    next hdirectory =>
      subst hdirectory
      obtain ⟨rfl, hdescends⟩ := below?_eq_some_iff.mp hway
      exact ⟨hdescends, (mem_entries_iff hdescends).mp hmem⟩
    · cases hway
  · rintro ⟨hdescends, hdirectory⟩
    refine ⟨(l ++ way, .directory), (mem_entries_iff hdescends).mpr hdirectory, ?_⟩
    dsimp only
    rw [if_pos rfl, below?_eq_some_iff.mpr ⟨rfl, hdescends⟩]

end FileTree

/-! ## Steps of a search -/

namespace Search

variable {t t' : FileTree} {p q r : Path} {rest : List Step}

/-- A step leads from the path of a directory to another path. -/
def Leads (t : FileTree) : Step → Path → Path → Prop
  | .here, p, r => r = p
  | .up, p, r => r = p ++ [dots]
  | .anywhere, p, r => ∃ way, r = p ++ way ∧
      (way = [] ∨ way.descends = true ∧ t.get? (location p ++ way) = some .directory)
  | .named pieces, p, r => ∃ name, r = p ++ [name] ∧ Glob.matchesAll pieces name = true ∧
      descends [name] = true ∧ (t.get? (location p ++ [name])).isSome = true

theorem mem_reach_cons {step : Step} :
    q ∈ reach t (step :: rest) p ↔
      t.isDirectory p = true ∧ ∃ r, Leads t step p r ∧ q ∈ reach t rest r := by
  rw [reach]
  cases hp : t.locate p with
  | error fault =>
    have hfind : t.find? p = none := by rw [FileTree.find?, hp]
    simp [FileTree.isDirectory, hfind]
  | ok l =>
    obtain ⟨rfl, -⟩ := FileTree.locate_eq_ok_iff.mp hp
    have hfind : t.find? p = t.get? (location p) := by rw [FileTree.find?, hp]
    rw [FileTree.isDirectory_iff, hfind]
    dsimp only
    by_cases hdirectory : t.get? (location p) = some .directory
    · rw [if_neg (not_not.mpr hdirectory), and_iff_right hdirectory]
      cases step with
      | here => simp [Leads]
      | up => simp [Leads]
      | anywhere =>
        simp only [List.mem_flatMap, List.mem_cons, FileTree.mem_directoriesBelow, Leads]
        constructor
        · rintro ⟨way, hway, hq⟩
          exact ⟨_, ⟨way, rfl, hway⟩, hq⟩
        · rintro ⟨_, ⟨way, rfl, hway⟩, hq⟩
          exact ⟨way, hway, hq⟩
      | named pieces =>
        simp only [List.mem_flatMap, List.mem_filter, FileTree.mem_names, Leads]
        constructor
        · rintro ⟨name, ⟨⟨hdescends, hsome⟩, hmatches⟩, hq⟩
          exact ⟨_, ⟨name, rfl, hmatches, hdescends, hsome⟩, hq⟩
        · rintro ⟨_, ⟨name, rfl, hmatches, hdescends, hsome⟩, hq⟩
          exact ⟨name, ⟨⟨hdescends, hsome⟩, hmatches⟩, hq⟩
    · rw [if_pos hdirectory]
      simp [hdirectory]

theorem Leads.isPrefix {step : Step} (h : Leads t step p r) : p <+: r := by
  cases step with
  | here => exact h ▸ List.prefix_rfl
  | up => exact h ▸ List.prefix_append p [dots]
  | anywhere =>
    obtain ⟨way, rfl, -⟩ := h
    exact List.prefix_append p way
  | named pieces =>
    obtain ⟨name, rfl, -⟩ := h
    exact List.prefix_append p [name]

theorem isPrefix_of_mem_reach {steps : List Step} (h : q ∈ reach t steps p) : p <+: q := by
  induction steps generalizing p with
  | nil =>
    obtain rfl := List.mem_singleton.mp h
    exact List.prefix_rfl
  | cons step rest ih =>
    obtain ⟨-, r, hr, hq⟩ := mem_reach_cons.mp h
    exact hr.isPrefix.trans (ih hq)

end Search

namespace FileTree

variable {t t' : FileTree} {p q l : Path} {content : List UInt8}

theorem mem_search {steps : List Search.Step} :
    q ∈ t.search p steps ↔ q ∈ Search.reach t (.anywhere :: steps) p ∧ t.isFile q = true := by
  simp [search, List.mem_mergeSort, List.mem_eraseDups]

theorem nodup_eraseDups (ps : List Path) : ps.eraseDups.Nodup := by
  match ps with
  | [] => exact .nil
  | p :: ps =>
    rw [List.eraseDups_cons]
    refine List.nodup_cons.mpr ⟨fun hp => ?_, nodup_eraseDups _⟩
    have hfilter := (List.mem_filter.mp (List.mem_eraseDups.mp hp)).2
    simp at hfilter
termination_by ps.length
decreasing_by exact Nat.lt_succ_of_le (List.length_filter_le _ _)

theorem nodup_search (t : FileTree) (p : Path) (steps : List Search.Step) :
    (t.search p steps).Nodup :=
  (List.mergeSort_perm _ _).nodup_iff.mpr (nodup_eraseDups _)

theorem pairwise_search (t : FileTree) (p : Path) (steps : List Search.Step) :
    (t.search p steps).Pairwise fun q r => q.le r = true := by
  unfold search
  apply List.pairwise_mergeSort
  · exact fun _ _ _ hpq hqr => Path.le_trans hpq hqr
  · exact Path.le_total

/-! ## Fewer files -/

/-- The second tree has the same directories as the first, and of its files only some. -/
structure Thins (t t' : FileTree) : Prop where
  directory_iff : ∀ l, t'.get? l = some .directory ↔ t.get? l = some .directory
  get?_file : ∀ l content, t'.get? l = some (.file content) → t.get? l = some (.file content)

namespace Thins

theorem holdsFile (h : t.Thins t') (hl : t'.HoldsFile l) : t.HoldsFile l := by
  obtain ⟨content, hcontent⟩ := hl
  exact ⟨content, h.get?_file l content hcontent⟩

theorem isSome (h : t.Thins t') (hl : (t'.get? l).isSome = true) : (t.get? l).isSome = true := by
  obtain ⟨e, he⟩ := Option.isSome_iff_exists.mp hl
  cases e with
  | file content => rw [h.get?_file l content he]; rfl
  | directory => rw [(h.directory_iff l).mp he]; rfl

theorem find?_directory_iff (h : t.Thins t') :
    t'.find? p = some .directory ↔ t.find? p = some .directory := by
  simp only [find?_eq_some_iff, h.directory_iff]

theorem content?_eq_some (h : t.Thins t') (hp : t'.content? p = some content) :
    t.content? p = some content := by
  simp only [content?_eq_some_iff, find?_eq_some_iff, h.directory_iff] at hp ⊢
  exact ⟨hp.1, h.get?_file _ _ hp.2⟩

theorem isDirectory_eq (h : t.Thins t') : t'.isDirectory p = t.isDirectory p := by
  rw [Bool.eq_iff_iff, isDirectory_iff, isDirectory_iff, h.find?_directory_iff]

theorem isFile (h : t.Thins t') (hp : t'.isFile p = true) : t.isFile p = true := by
  obtain ⟨content, hcontent⟩ := Option.isSome_iff_exists.mp hp
  exact Option.isSome_iff_exists.mpr ⟨content, h.content?_eq_some hcontent⟩

theorem admits (h : t.Thins t') (hp : t.Admits p) : t'.Admits p where
  fits := hp.fits
  clear l hl := mt h.holdsFile (hp.clear l hl)
  returns := hp.returns
  free := mt (h.directory_iff _).mp hp.free

theorem leads {step : Search.Step} (h : t.Thins t') (hr : Search.Leads t' step p q) :
    Search.Leads t step p q := by
  cases step with
  | here => exact hr
  | up => exact hr
  | anywhere =>
    obtain ⟨way, hq, hway⟩ := hr
    exact ⟨way, hq, hway.imp_right fun hbelow => ⟨hbelow.1, (h.directory_iff _).mp hbelow.2⟩⟩
  | named pieces =>
    obtain ⟨name, hq, hmatches, hdescends, hsome⟩ := hr
    exact ⟨name, hq, hmatches, hdescends, h.isSome hsome⟩

theorem reach_subset (h : t.Thins t') (steps : List Search.Step) :
    ∀ p, Search.reach t' steps p ⊆ Search.reach t steps p := by
  induction steps with
  | nil => exact fun p q hq => hq
  | cons step rest ih =>
    intro p q hq
    obtain ⟨hp, r, hr, hq⟩ := Search.mem_reach_cons.mp hq
    exact Search.mem_reach_cons.mpr ⟨h.isDirectory_eq ▸ hp, r, h.leads hr, ih r hq⟩

/-- Where a search has come on its way to a file that is left, something is left. -/
theorem isSome_of_mem_reach (h : t.Thins t') {rest : List Search.Step}
    (hq : q ∈ Search.reach t rest p) (hfile : t'.isFile q = true) :
    (t'.get? (location p)).isSome = true := by
  cases rest with
  | nil =>
    obtain rfl := List.mem_singleton.mp hq
    obtain ⟨content, hcontent⟩ := Option.isSome_iff_exists.mp hfile
    rw [(find?_eq_some_iff.mp (content?_eq_some_iff.mp hcontent)).2]
    rfl
  | cons step rest =>
    obtain ⟨hp, -⟩ := Search.mem_reach_cons.mp hq
    have hdirectory := (find?_eq_some_iff.mp (isDirectory_iff.mp hp)).2
    rw [(h.directory_iff _).mpr hdirectory]
    rfl

theorem mem_reach (h : t.Thins t') (hfile : t'.isFile q = true) (steps : List Search.Step) :
    ∀ p, q ∈ Search.reach t steps p → q ∈ Search.reach t' steps p := by
  induction steps with
  | nil => exact fun p hq => hq
  | cons step rest ih =>
    intro p hq
    obtain ⟨hp, r, hr, hq⟩ := Search.mem_reach_cons.mp hq
    refine Search.mem_reach_cons.mpr ⟨h.isDirectory_eq ▸ hp, r, ?_, ih r hq⟩
    cases step with
    | here => exact hr
    | up => exact hr
    | anywhere =>
      obtain ⟨way, hr, hway⟩ := hr
      exact ⟨way, hr, hway.imp_right fun hbelow => ⟨hbelow.1, (h.directory_iff _).mpr hbelow.2⟩⟩
    | named pieces =>
      obtain ⟨name, rfl, hmatches, hdescends, -⟩ := hr
      have hsome := h.isSome_of_mem_reach hq hfile
      rw [location_name hdescends] at hsome
      exact ⟨name, rfl, hmatches, hdescends, hsome⟩

theorem search_subset (h : t.Thins t') (steps : List Search.Step) :
    t'.search p steps ⊆ t.search p steps := by
  intro q hq
  obtain ⟨hreach, hfile⟩ := FileTree.mem_search.mp hq
  exact FileTree.mem_search.mpr ⟨h.reach_subset _ p hreach, h.isFile hfile⟩

theorem mem_search (h : t.Thins t') {steps : List Search.Step} (hq : q ∈ t.search p steps)
    (hfile : t'.isFile q = true) : q ∈ t'.search p steps :=
  FileTree.mem_search.mpr ⟨h.mem_reach hfile _ p (FileTree.mem_search.mp hq).1, hfile⟩

end Thins

end FileTree

end Stencil
