import Mathlib.Data.List.Induction
import Stencil.FileTree.Basic

/-!
# Where paths lead, and what a write leaves

Where a path leads is a matter of its parts alone (`Path.location`). The tree only decides whether
it can be followed: its names have to fit, and there has to be a directory wherever it passes
(`locate_eq_ok_iff`).

A file can be written, with the directories it needs, exactly if the tree admits it. The tree is
then overlaid with directories where the path passes and with the file where it leads
(`writeThrough_lays`). Overlays compose, so the same is known of any number of writes.
-/

namespace Stencil

namespace Path

/-- The location that one part leads to from another. -/
def next (l : Path) (part : Text) : Path := if part = dots then l.up else l ++ [part]

/-- The location that a path leads to wherever it can be followed. -/
def location (p : Path) : Path := p.foldl next []

/-- No name is longer than names may be. -/
def Fits (p : Path) : Prop :=
  ∀ part ∈ p, part = dots ∨ (Text.utf8 part).length ≤ FileTree.nameLimit

/-- The path goes through the location before it comes to its end. -/
def Passes (p l : Path) : Prop := ∃ q, q <+: p ∧ q ≠ p ∧ location q = l

theorem location_snoc (p : Path) (part : Text) :
    location (p ++ [part]) = next (location p) part := by
  simp [location, List.foldl_append]

/-- Different parts lead to different locations. -/
theorem next_inj {l : Path} {part part' : Text} (h : next l part = next l part') :
    part = part' := by
  have hup (name : Text) (hname : name ≠ dots) : l.up ≠ l ++ [name] := by
    intro heq
    unfold up at heq
    split at heq
    next hroot =>
      rw [hroot] at heq
      cases List.cons.inj heq |>.2
    · split at heq
      · exact hname (List.append_cancel_left heq |> List.cons.inj |>.1.symm)
      · have hlength := congrArg List.length heq
        simp only [List.length_dropLast, List.length_append, List.length_singleton] at hlength
        omega
  unfold next at h
  by_cases hpart : part = dots
  · by_cases hpart' : part' = dots
    · rw [hpart, hpart']
    · rw [if_pos hpart, if_neg hpart'] at h
      exact (hup part' hpart' h).elim
  · by_cases hpart' : part' = dots
    · rw [if_neg hpart, if_pos hpart'] at h
      exact (hup part hpart h.symm).elim
    · rw [if_neg hpart, if_neg hpart'] at h
      exact (List.cons.inj (List.append_cancel_left h)).1

theorem fits_snoc {p : Path} {part : Text} :
    Fits (p ++ [part]) ↔ p.Fits ∧ (part = dots ∨ (Text.utf8 part).length ≤ FileTree.nameLimit) := by
  rw [Fits, List.forall_mem_append, List.forall_mem_singleton]
  rfl

theorem not_passes_nil (l : Path) : ¬ Passes [] l := by
  rintro ⟨q, hq, hne, -⟩
  exact hne (List.prefix_nil.mp hq)

theorem passes_snoc {p l : Path} {part : Text} :
    Passes (p ++ [part]) l ↔ p.Passes l ∨ location p = l := by
  constructor
  · rintro ⟨q, hq, hne, rfl⟩
    rcases List.prefix_concat_iff.mp hq with rfl | hq
    · exact (hne rfl).elim
    · by_cases hqp : q = p
      · exact .inr (hqp ▸ rfl)
      · exact .inl ⟨q, hq, hqp, rfl⟩
  · have hlonger : ∀ {q : Path}, q <+: p → q ≠ p ++ [part] := by
      rintro q hq rfl
      have hlength := hq.length_le
      simp only [List.length_append, List.length_singleton] at hlength
      omega
    rintro (⟨q, hq, -, rfl⟩ | rfl)
    · exact ⟨q, hq.trans (List.prefix_append p [part]), hlonger hq, rfl⟩
    · exact ⟨p, List.prefix_append p [part], hlonger List.prefix_rfl, rfl⟩

end Path

namespace FileTree

open Stencil.Path

variable {t t' t'' : FileTree} {p l : Path} {content : List UInt8}

/-! ## Entries -/

theorem mem_iff_lookup {q : Path} {e : Entry} {entries : List (Path × Entry)}
    (h : (entries.map Prod.fst).Nodup) : (q, e) ∈ entries ↔ entries.lookup q = some e := by
  induction entries with
  | nil => simp
  | cons entry entries ih =>
    obtain ⟨k, e'⟩ := entry
    obtain ⟨hk, hnodup⟩ := List.nodup_cons.mp h
    by_cases hq : q = k
    · subst hq
      have hnot : (q, e) ∉ entries := fun h => hk (List.mem_map.mpr ⟨(q, e), h, rfl⟩)
      simp [hnot, eq_comm]
    · have hbeq : (q == k) = false := beq_false_of_ne hq
      rw [List.lookup_cons, hbeq, ← ih hnodup]
      simp [hq]

theorem lookup_filter {entries : List (Path × Entry)} (h : (entries.map Prod.fst).Nodup)
    (keep : Path × Entry → Bool) (q : Path) :
    (entries.filter keep).lookup q = (entries.lookup q).filter fun e => keep (q, e) := by
  have hkept : ((entries.filter keep).map Prod.fst).Nodup :=
    h.sublist (List.filter_sublist.map Prod.fst)
  ext e
  rw [← mem_iff_lookup hkept, List.mem_filter, mem_iff_lookup h, Option.filter_eq_some_iff]

theorem get?_set (hl : l.isSurrounding = false) (e : Entry) (q : Path) :
    (t.set l e).get? q = if q = l then some e else t.get? q := by
  by_cases hq : q = l
  · subst hq
    simp [get?, hl, set]
  · have hbeq : (q == l) = false := by simpa using hq
    have herase : (t.erase l).entries.lookup q = t.entries.lookup q := by
      rw [erase, lookup_filter t.nodup]
      cases t.entries.lookup q with
      | none => rfl
      | some e => simp [hq]
    simp only [get?, set, List.lookup_cons, hbeq, herase, if_neg hq]

theorem isSurrounding_eq_false (h : t.get? l ≠ some .directory) : l.isSurrounding = false := by
  unfold get? at h
  split at h
  · exact (h rfl).elim
  next hsurrounding => exact Bool.eq_false_iff.mpr hsurrounding

theorem get?_nil : t.get? [] = some .directory := rfl

/-- There is a file at the location. -/
def HoldsFile (t : FileTree) (l : Path) : Prop := ∃ content, t.get? l = some (.file content)

theorem not_holdsFile (h : t.get? l = some .directory) : ¬ t.HoldsFile l := by
  rintro ⟨content, hc⟩
  rw [h] at hc
  cases hc

/-! ## Following a path -/

theorem follow_eq_ok_iff {q : Path} {part : Text} :
    t.follow l part = .ok q ↔ q = l.next part ∧ t.get? l = some .directory ∧
      (part = dots ∨ (Text.utf8 part).length ≤ nameLimit) := by
  unfold follow next
  cases hget : t.get? l with
  | none => simp
  | some e =>
    cases e with
    | file => simp
    | directory =>
      by_cases hdots : part = dots
      · simp [hdots, eq_comm]
      · by_cases hlong : nameLimit < (Text.utf8 part).length
        · simp [hdots, hlong]
        · simp [hdots, hlong, Nat.not_lt.mp hlong, eq_comm]

theorem locate_snoc (p : Path) (part : Text) :
    t.locate (p ++ [part]) = t.locate p >>= fun l => t.follow l part := by
  simp [locate, List.foldlM_append]

theorem locate_eq_ok_iff :
    t.locate p = .ok l ↔
      l = location p ∧ p.Fits ∧ ∀ q, p.Passes q → t.get? q = some .directory := by
  induction p using List.reverseRecOn generalizing l with
  | nil => 
    have hnil : t.locate [] = .ok [] := rfl
    simp [hnil, location, Fits, not_passes_nil, eq_comm]
  | append_singleton p part ih =>
    have hbind : t.locate (p ++ [part]) = .ok l ↔
        ∃ m, t.locate p = .ok m ∧ t.follow m part = .ok l := by
      rw [locate_snoc]
      cases t.locate p <;> simp [bind, Except.bind]
    simp only [hbind, ih, follow_eq_ok_iff, location_snoc, fits_snoc, passes_snoc]
    constructor
    · rintro ⟨m, ⟨rfl, hfits, hpasses⟩, rfl, hdir, hpart⟩
      refine ⟨rfl, ⟨hfits, hpart⟩, ?_⟩
      rintro q (hq | rfl)
      · exact hpasses q hq
      · exact hdir
    · rintro ⟨rfl, ⟨hfits, hpart⟩, hpasses⟩
      exact ⟨_, ⟨rfl, hfits, fun q hq => hpasses q (.inl hq)⟩, rfl, hpasses _ (.inr rfl), hpart⟩

/-- A path that fits and passes no file can be followed, or something on its way is missing. -/
theorem locate_of_fits (hfits : p.Fits) (hfiles : ∀ q, p.Passes q → ¬ t.HoldsFile q) :
    t.locate p = .ok (location p) ∨ t.locate p = .error .missing := by
  induction p using List.reverseRecOn with
  | nil => exact .inl rfl
  | append_singleton p part ih =>
    rw [fits_snoc] at hfits
    rw [locate_snoc, location_snoc]
    rcases ih hfits.1 fun q hq => hfiles q (passes_snoc.mpr (.inl hq)) with hp | hp
    · rw [hp]
      show t.follow (location p) part = _ ∨ t.follow (location p) part = _
      cases hget : t.get? (location p) with
      | none => exact .inr (by simp [follow, hget])
      | some e =>
        cases e with
        | file content => exact (hfiles _ (passes_snoc.mpr (.inr rfl)) ⟨content, hget⟩).elim
        | directory => exact .inl (follow_eq_ok_iff.mpr ⟨rfl, hget, hfits.2⟩)
    · rw [hp]
      exact .inr rfl

theorem find?_eq_some_iff {e : Entry} :
    t.find? p = some e ↔ (p.Fits ∧ ∀ q, p.Passes q → t.get? q = some .directory) ∧
      t.get? (location p) = some e := by
  unfold find?
  cases hp : t.locate p with
  | ok l =>
    obtain ⟨rfl, hway⟩ := locate_eq_ok_iff.mp hp
    exact (and_iff_right hway).symm
  | error fault =>
    refine iff_of_false nofun ?_
    rintro ⟨hway, -⟩
    rw [locate_eq_ok_iff.mpr ⟨rfl, hway⟩] at hp
    cases hp

theorem content?_eq_some_iff :
    t.content? p = some content ↔ t.find? p = some (.file content) := by
  unfold content?
  split
  next found hfound => simp [hfound]
  next hnot => exact iff_of_false nofun (hnot content)

theorem isDirectory_iff : t.isDirectory p = true ↔ t.find? p = some .directory := by
  simp [isDirectory]

/-! ## Overlays -/

/-- The second tree has more directories than the first, and is otherwise the same. -/
def Spreads (t t' : FileTree) : Prop :=
  ∀ l, t'.get? l = t.get? l ∨ t.get? l = none ∧ t'.get? l = some .directory

theorem Spreads.refl (t : FileTree) : t.Spreads t := fun _ => .inl rfl

theorem Spreads.trans (h : t.Spreads t') (h' : t'.Spreads t'') : t.Spreads t'' := by
  intro l
  rcases h' l with hl' | ⟨hnone, hdirectory⟩
  · rw [hl']
    exact h l
  · rcases h l with hl | ⟨-, hl⟩
    · exact .inr ⟨hl ▸ hnone, hdirectory⟩
    · rw [hl] at hnone
      cases hnone

theorem Spreads.get?_eq_some {e : Entry} (h : t.Spreads t') (hl : t.get? l = some e) :
    t'.get? l = some e := by
  rcases h l with heq | ⟨hnone, -⟩
  · rw [heq, hl]
  · rw [hl] at hnone
    cases hnone

theorem Spreads.content?_eq_some (h : t.Spreads t') (hp : t.content? p = some content) :
    t'.content? p = some content := by
  rw [content?_eq_some_iff, find?_eq_some_iff] at hp ⊢
  obtain ⟨⟨hfits, hway⟩, hfile⟩ := hp
  exact ⟨⟨hfits, fun q hq => h.get?_eq_some (hway q hq)⟩, h.get?_eq_some hfile⟩

/-- The second tree has directories and files where the first has them, directories also at `D` and
files also at `F`, and is otherwise the same. -/
structure Overlaid (D F : Path → Prop) (t t' : FileTree) : Prop where
  directory_iff : ∀ l, t'.get? l = some .directory ↔ t.get? l = some .directory ∨ D l
  holdsFile_iff : ∀ l, t'.HoldsFile l ↔ t.HoldsFile l ∨ F l
  get?_eq : ∀ l, ¬ D l → ¬ F l → t'.get? l = t.get? l

namespace Overlaid

variable {D F D' F' : Path → Prop}

theorem refl (t : FileTree) : Overlaid (fun _ => False) (fun _ => False) t t where
  directory_iff _ := (or_iff_left id).symm
  holdsFile_iff _ := (or_iff_left id).symm
  get?_eq _ _ _ := rfl

theorem trans (h : Overlaid D F t t') (h' : Overlaid D' F' t' t'') :
    Overlaid (fun l => D l ∨ D' l) (fun l => F l ∨ F' l) t t'' where
  directory_iff l := by rw [h'.directory_iff, h.directory_iff, or_assoc]
  holdsFile_iff l := by rw [h'.holdsFile_iff, h.holdsFile_iff, or_assoc]
  get?_eq l hD hF := by
    rw [not_or] at hD hF
    rw [h'.get?_eq l hD.2 hF.2, h.get?_eq l hD.1 hF.1]

/-- Where there is a directory already, one more makes no difference. -/
theorem widen (h : Overlaid D F t t') (hD : ∀ l, D l → D' l)
    (hD' : ∀ l, D' l → t.get? l = some .directory ∨ D l) : Overlaid D' F t t' where
  directory_iff l := by
    rw [h.directory_iff]
    exact ⟨Or.imp_right (hD l), fun hl => hl.elim .inl (hD' l)⟩
  holdsFile_iff := h.holdsFile_iff
  get?_eq l hl hF := h.get?_eq l (mt (hD l) hl) hF

theorem congr (h : Overlaid D F t t') (hD : ∀ l, D l ↔ D' l) (hF : ∀ l, F l ↔ F' l) :
    Overlaid D' F' t t' := by
  obtain rfl : D = D' := funext fun l => propext (hD l)
  obtain rfl : F = F' := funext fun l => propext (hF l)
  exact h

/-- A file stays as it is unless one is laid over it: no directory can be. -/
theorem get?_file (h : Overlaid D F t t') (hl : t.get? l = some (.file content)) (hF : ¬ F l) :
    t'.get? l = some (.file content) := by
  by_cases hD : D l
  · have hdirectory := (h.directory_iff l).mpr (.inr hD)
    exact (not_holdsFile hdirectory ((h.holdsFile_iff l).mpr (.inl ⟨content, hl⟩))).elim
  · rw [h.get?_eq l hD hF, hl]

theorem spreads (h : Overlaid D (fun _ => False) t t') : t.Spreads t' := by
  intro l
  by_cases hD : D l
  · have hdirectory := (h.directory_iff l).mpr (.inr hD)
    cases hl : t.get? l with
    | none => exact .inr ⟨rfl, hdirectory⟩
    | some e =>
      cases e with
      | file content => exact .inl (h.get?_file hl id)
      | directory => exact .inl hdirectory
  · exact .inl (h.get?_eq l hD id)

theorem content?_eq_some (h : Overlaid D F t t') (hp : t.content? p = some content)
    (hF : ¬ F (location p)) : t'.content? p = some content := by
  rw [content?_eq_some_iff, find?_eq_some_iff] at hp ⊢
  obtain ⟨⟨hfits, hway⟩, hfile⟩ := hp
  exact ⟨⟨hfits, fun q hq => (h.directory_iff q).mpr (.inl (hway q hq))⟩, h.get?_file hfile hF⟩

end Overlaid

theorem overlaid_set_directory (hl : t.get? l = none) :
    Overlaid (l = ·) (fun _ => False) t (t.set l .directory) := by
  have hget := get?_set (t := t) (isSurrounding_eq_false (by rw [hl]; exact nofun)) .directory
  constructor
  · intro q
    by_cases hq : q = l
    · simp [hget, hq]
    · simp [hget, hq, Ne.symm hq]
  · intro q
    by_cases hq : q = l
    · simp [HoldsFile, hget, hq, hl]
    · simp [HoldsFile, hget, hq]
  · intro q hq _
    rw [hget, if_neg (Ne.symm hq)]

theorem overlaid_set_file (hl : t.get? l ≠ some .directory) :
    Overlaid (fun _ => False) (l = ·) t (t.set l (.file content)) := by
  have hget := get?_set (t := t) (isSurrounding_eq_false hl) (.file content)
  constructor
  · intro q
    by_cases hq : q = l
    · simp [hget, hq, hl]
    · simp [hget, hq]
  · intro q
    by_cases hq : q = l
    · simp [HoldsFile, hget, hq]
    · simp [HoldsFile, hget, hq, Ne.symm hq]
  · intro q _ hq
    rw [hget, if_neg (Ne.symm hq)]

/-! ## Making directories -/

/-- An attempt to make directories succeeds exactly if the path fits and no file is in the way, and
then it has laid directories wherever the path passes and where it leads. In any case it has only
made directories. -/
structure Paves (p : Path) (t : FileTree) (attempt : FileTree × Option FileFault) : Prop where
  eq_none_iff : attempt.2 = none ↔
    p.Fits ∧ ∀ l, p.Passes l ∨ location p = l → ¬ t.HoldsFile l
  overlaid : attempt.2 = none →
    Overlaid (fun l => p.Passes l ∨ location p = l) (fun _ => False) t attempt.1
  spreads : t.Spreads attempt.1

theorem Paves.after {D : Path → Prop} {attempt : FileTree × Option FileFault}
    (h : Paves p t' attempt) (ht : Overlaid D (fun _ => False) t t') (hD : ∀ l, D l → p.Passes l) :
    Paves p t attempt where
  eq_none_iff := by
    have hfiles : ∀ l, t'.HoldsFile l ↔ t.HoldsFile l := fun l =>
      (ht.holdsFile_iff l).trans (or_iff_left id)
    simp only [h.eq_none_iff, hfiles]
  overlaid hnone := (ht.trans (h.overlaid hnone)).congr
    (fun l => or_iff_right_of_imp fun hl => .inl (hD l hl)) fun _ => or_self_iff
  spreads := ht.spreads.trans h.spreads

/-- Making the last directory is enough if nothing on the way to it is missing. -/
theorem settled_paves (hp : t.locate p ≠ .error .missing) :
    Paves p t (t.settled p (t.makeDirectory p)) := by
  cases hlocate : t.locate p with
  | error fault =>
    have hfails : t.settled p (t.makeDirectory p) = (t, some fault) := by
      rw [makeDirectory, hlocate, settled, isDirectory, find?, hlocate]
      rfl
    rw [hfails]
    refine ⟨iff_of_false nofun ?_, nofun, .refl t⟩
    rintro ⟨hfits, hfiles⟩
    rcases locate_of_fits hfits fun q hq => hfiles q (.inl hq) with h | h
    · rw [hlocate] at h
      cases h
    · exact hp h
  | ok l =>
    obtain ⟨rfl, hfits, hway⟩ := locate_eq_ok_iff.mp hlocate
    have hfiles (h : ¬ t.HoldsFile (location p)) :
        ∀ l, p.Passes l ∨ location p = l → ¬ t.HoldsFile l := by
      rintro l (hl | rfl)
      · exact not_holdsFile (hway l hl)
      · exact h
    have hmake : t.makeDirectory p =
        if (t.get? (location p)).isSome then .error .alreadyExists
        else .ok (t.set (location p) .directory) := by
      rw [makeDirectory, hlocate]
    cases hget : t.get? (location p) with
    | none =>
      have hset := overlaid_set_directory hget
      rw [hmake, hget]
      refine ⟨iff_of_true rfl ⟨hfits, hfiles ?_⟩, fun _ => ?_, hset.spreads⟩
      · rintro ⟨content, hc⟩
        rw [hget] at hc
        cases hc
      · exact hset.widen (fun _ => .inr) fun l hl => hl.imp_left (hway l)
    | some e =>
      have hfind : t.find? p = some e := find?_eq_some_iff.mpr ⟨⟨hfits, hway⟩, hget⟩
      rw [hmake, hget]
      show Paves p t (t, if t.isDirectory p then none else some .alreadyExists)
      rw [isDirectory, hfind]
      cases e with
      | file content =>
        exact ⟨iff_of_false nofun fun h => h.2 _ (.inr rfl) ⟨content, hget⟩, nofun, .refl t⟩
      | directory =>
        refine ⟨iff_of_true rfl ⟨hfits, hfiles (not_holdsFile hget)⟩, fun _ => ?_, .refl t⟩
        refine (Overlaid.refl t).widen (fun _ => False.elim) ?_
        rintro l (hl | rfl)
        · exact .inl (hway l hl)
        · exact .inl hget

theorem makeDirectory_eq_missing_iff :
    t.makeDirectory p = .error .missing ↔ t.locate p = .error .missing := by
  unfold makeDirectory
  cases t.locate p with
  | error fault =>
    show Except.error fault = Except.error FileFault.missing ↔ _
    rw [Except.error.injEq, Except.error.injEq]
  | ok l =>
    dsimp only
    split
    · exact iff_of_false nofun nofun
    · exact iff_of_false nofun nofun

/-- If nothing on the way is missing, the last directory is made at once. -/
theorem makeOnTheWay_snoc {part : Text} (h : t.locate (p ++ [part]) ≠ .error .missing) :
    t.makeOnTheWay (p ++ [part]).reverse =
      t.settled (p ++ [part]) (t.makeDirectory (p ++ [part])) := by
  rw [List.reverse_concat]
  unfold makeOnTheWay
  rw [← List.reverse_concat, List.reverse_reverse]
  dsimp only
  split
  next hmissing => exact (h (makeDirectory_eq_missing_iff.mp hmissing)).elim
  next => rfl

/-- Otherwise it is made after those around it, if they can be made. -/
theorem makeOnTheWay_snoc_of_missing {part : Text} (h : t.locate (p ++ [part]) = .error .missing) :
    (∀ t', t.makeOnTheWay p.reverse = (t', none) →
      t.makeOnTheWay (p ++ [part]).reverse =
        t'.settled (p ++ [part]) (t'.makeDirectory (p ++ [part]))) ∧
    ∀ t' fault, t.makeOnTheWay p.reverse = (t', some fault) →
      t.makeOnTheWay (p ++ [part]).reverse = (t', some fault) := by
  have hmissing := makeDirectory_eq_missing_iff.mpr h
  refine ⟨fun t' haround => ?_, fun t' fault haround => ?_⟩
  all_goals
    rw [List.reverse_concat]
    conv_lhs => unfold makeOnTheWay
    rw [← List.reverse_concat, List.reverse_reverse]
    simp only [hmissing, haround]

/-- One part more can be followed where everything before it is a directory, unless it is too
long. -/
theorem locate_snoc_ne_missing {part : Text} (hfits : p.Fits)
    (hdirectory : ∀ l, p.Passes l ∨ location p = l → t.get? l = some .directory) :
    t.locate (p ++ [part]) ≠ .error .missing := by
  have hp : t.locate p = .ok (location p) :=
    locate_eq_ok_iff.mpr ⟨rfl, hfits, fun l hl => hdirectory l (.inl hl)⟩
  rw [locate_snoc, hp]
  show t.follow (location p) part ≠ _
  unfold follow
  rw [hdirectory _ (.inr rfl)]
  dsimp only
  split
  · exact nofun
  · split <;> exact nofun

theorem makeOnTheWay_paves (p : Path) : Paves p t (t.makeOnTheWay p.reverse) := by
  induction p using List.reverseRecOn with
  | nil =>
    refine ⟨iff_of_true rfl ⟨nofun, ?_⟩,
      fun _ => (Overlaid.refl t).widen (fun _ => False.elim) ?_, .refl t⟩
    · rintro l (hl | rfl)
      · exact (not_passes_nil l hl).elim
      · exact not_holdsFile get?_nil
    · rintro l (hl | rfl)
      · exact (not_passes_nil l hl).elim
      · exact .inl get?_nil
  | append_singleton p part ih =>
    by_cases hmissing : t.locate (p ++ [part]) = .error .missing
    · obtain ⟨hmade, hfails⟩ := makeOnTheWay_snoc_of_missing hmissing
      cases haround : t.makeOnTheWay p.reverse with
      | mk t' fault =>
      rw [haround] at ih
      cases fault with
      | none =>
        have ht' := ih.overlaid rfl
        rw [hmade t' haround]
        refine (settled_paves ?_).after ht' fun l => passes_snoc.mpr
        exact locate_snoc_ne_missing (ih.eq_none_iff.mp rfl).1 fun l hl =>
          (ht'.directory_iff l).mpr (.inr hl)
      | some fault =>
        rw [hfails t' fault haround]
        refine ⟨iff_of_false nofun ?_, nofun, ih.spreads⟩
        rintro ⟨hfits, hfiles⟩
        have hnone := ih.eq_none_iff.mpr
          ⟨(fits_snoc.mp hfits).1, fun l hl => hfiles l (.inl (passes_snoc.mpr hl))⟩
        cases hnone
    · rw [makeOnTheWay_snoc hmissing]
      exact settled_paves hmissing

/-! ## Writing -/

/-- A file can be written at the path, with the directories it needs. -/
structure Admits (t : FileTree) (p : Path) : Prop where
  fits : p.Fits
  clear : ∀ l, p.Passes l → ¬ t.HoldsFile l
  returns : ¬ p.Passes (location p)
  free : t.get? (location p) ≠ some .directory

/-- What is laid over a tree is in the way of a file where it puts a file on its way, or a directory
where it leads. -/
theorem Overlaid.admits_iff {D F : Path → Prop} (h : Overlaid D F t t') :
    t'.Admits p ↔ t.Admits p ∧ (∀ l, p.Passes l → ¬ F l) ∧ ¬ D (location p) := by
  constructor
  · rintro ⟨hfits, hclear, hreturns, hfree⟩
    have hclear' : ∀ l, p.Passes l → ¬ t.HoldsFile l ∧ ¬ F l := fun l hl =>
      not_or.mp (mt (h.holdsFile_iff l).mpr (hclear l hl))
    have hfree' := not_or.mp (mt (h.directory_iff (location p)).mpr hfree)
    exact ⟨⟨hfits, fun l hl => (hclear' l hl).1, hreturns, hfree'.1⟩,
      fun l hl => (hclear' l hl).2, hfree'.2⟩
  · rintro ⟨⟨hfits, hclear, hreturns, hfree⟩, hF, hD⟩
    refine ⟨hfits, fun l hl => ?_, hreturns, ?_⟩
    · rw [h.holdsFile_iff]
      exact not_or.mpr ⟨hclear l hl, hF l hl⟩
    · rw [ne_eq, h.directory_iff]
      exact not_or.mpr ⟨hfree, hD⟩

theorem write_eq_ok_iff :
    t.write p content = .ok t' ↔
      (p.Fits ∧ ∀ l, p.Passes l → t.get? l = some .directory) ∧
        t.get? (location p) ≠ some .directory ∧ t' = t.set (location p) (.file content) := by
  unfold write
  cases hp : t.locate p with
  | error fault =>
    refine iff_of_false nofun ?_
    rintro ⟨hway, -⟩
    rw [locate_eq_ok_iff.mpr ⟨rfl, hway⟩] at hp
    cases hp
  | ok l =>
    obtain ⟨rfl, hway⟩ := locate_eq_ok_iff.mp hp
    rw [and_iff_right hway]
    dsimp only
    split
    next hget => exact iff_of_false nofun fun h => h.1 hget
    next hget => rw [and_iff_right hget, Except.ok.injEq, eq_comm]

/-- An attempt to write a file succeeds exactly if the tree admits it, and then it has laid
directories where the path passes, and the file with its content where the path leads. If it fails,
it has only made directories. -/
structure Lays (p : Path) (content : List UInt8) (t : FileTree)
    (attempt : FileTree × Option FileFault) : Prop where
  eq_none_iff : attempt.2 = none ↔ t.Admits p
  overlaid : attempt.2 = none → Overlaid p.Passes (location p = ·) t attempt.1
  get?_location : attempt.2 = none → attempt.1.get? (location p) = some (.file content)
  spreads : attempt.2 ≠ none → t.Spreads attempt.1

/-- No file can be written where there is a directory in every tree. -/
theorem writeThrough_lays_of_surrounding (h : (location p).isSurrounding = true) :
    Lays p content t (t.writeThrough p content) := by
  have hdirectory : ∀ t : FileTree, t.get? (location p) = some .directory := fun t => by
    rw [get?, if_pos h]
  have hnot : ¬ t.Admits p := fun hadmits => hadmits.free (hdirectory t)
  have hpaves := makeOnTheWay_paves (t := t) p.parent
  unfold writeThrough makeDirectories
  generalize t.makeOnTheWay p.parent.reverse = around at hpaves
  obtain ⟨t', fault⟩ := around
  cases fault with
  | some fault => exact ⟨iff_of_false nofun hnot, nofun, nofun, fun _ => hpaves.spreads⟩
  | none =>
    dsimp only
    cases hwrite : t'.write p content with
    | ok t'' => exact ((write_eq_ok_iff.mp hwrite).2.1 (hdirectory t')).elim
    | error fault => exact ⟨iff_of_false nofun hnot, nofun, nofun, fun _ => hpaves.spreads⟩

/-- Elsewhere the directory around the file is made and the file is written there. -/
theorem writeThrough_lays_snoc {part : Text} (h : p ++ [part] ≠ root) :
    Lays (p ++ [part]) content t (t.writeThrough (p ++ [part]) content) := by
  have hparent : Path.parent (p ++ [part]) = p := by
    rw [Path.parent, if_neg h, List.dropLast_concat]
  have hpaves := makeOnTheWay_paves (t := t) p
  unfold writeThrough
  rw [hparent]
  unfold makeDirectories
  generalize t.makeOnTheWay p.reverse = around at hpaves
  obtain ⟨t', fault⟩ := around
  cases fault with
  | some fault =>
    refine ⟨iff_of_false nofun fun hadmits => ?_, nofun, nofun, fun _ => hpaves.spreads⟩
    have hnone := hpaves.eq_none_iff.mpr
      ⟨(fits_snoc.mp hadmits.fits).1, fun l hl => hadmits.clear l (passes_snoc.mpr hl)⟩
    cases hnone
  | none =>
    have ht' : Overlaid (Passes (p ++ [part])) (fun _ => False) t t' :=
      (hpaves.overlaid rfl).congr (fun _ => passes_snoc.symm) fun _ => Iff.rfl
    dsimp only
    cases hwrite : t'.write (p ++ [part]) content with
    | ok t'' =>
      obtain ⟨⟨hfits, -⟩, hfree, rfl⟩ := write_eq_ok_iff.mp hwrite
      have hfree' := not_or.mp (mt (ht'.directory_iff _).mpr hfree)
      refine ⟨iff_of_true rfl ⟨hfits, fun l hl => ?_, hfree'.2, hfree'.1⟩, fun _ => ?_, fun _ => ?_,
        fun h => (h rfl).elim⟩
      · exact (hpaves.eq_none_iff.mp rfl).2 l (passes_snoc.mp hl)
      · exact (ht'.trans (overlaid_set_file hfree)).congr (fun _ => or_iff_left id)
          fun _ => or_iff_right id
      · rw [get?_set (isSurrounding_eq_false hfree), if_pos rfl]
    | error fault =>
      refine ⟨iff_of_false nofun fun hadmits => ?_, nofun, nofun, fun _ => hpaves.spreads⟩
      have hway : ∀ l, Passes (p ++ [part]) l → t'.get? l = some .directory := fun l hl =>
        (ht'.directory_iff l).mpr (.inr hl)
      have hfree := (ht'.admits_iff.mpr ⟨hadmits, fun _ _ => id, hadmits.returns⟩).free
      rw [write_eq_ok_iff.mpr ⟨⟨hadmits.fits, hway⟩, hfree, rfl⟩] at hwrite
      cases hwrite

theorem writeThrough_lays (t : FileTree) (p : Path) (content : List UInt8) :
    Lays p content t (t.writeThrough p content) := by
  cases p using List.reverseRecOn with
  | nil => exact writeThrough_lays_of_surrounding rfl
  | append_singleton q part =>
    by_cases hroot : q ++ [part] = root
    · rw [hroot]
      exact writeThrough_lays_of_surrounding rfl
    · exact writeThrough_lays_snoc hroot

end FileTree

end Stencil
