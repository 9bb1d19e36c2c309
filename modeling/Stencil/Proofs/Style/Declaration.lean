import Stencil.Proofs.Text.Blank
import Stencil.Proofs.Text.Mark
import Stencil.Style.Declaration

/-!
# Declarations one after another

`declare` adds what a text declares to what was declared before it. A text that ends where a
declaration may begin is settled, and what follows a settled text is declared after it
(`declare_append_of_settled`). As a map from keys to values, what a single declaration adds is one
entry (`lookup_put`).
-/

namespace Stencil.Style

open Text

/-! ## Adding declarations -/

/-- Adds what a text declares to what was declared before. -/
def declare (before : List (Text × Text)) (t : Text) : Except Fault (List (Text × Text)) :=
  addDeclarations before (splitOn ';' t)

theorem semicolon_not_mem {t : Text} (h : allBlank t = true) : ';' ∉ t :=
  not_mem_of_allBlank (by decide) h

theorem colon_not_mem {t : Text} (h : allBlank t = true) : ':' ∉ t :=
  not_mem_of_allBlank (by decide) h

theorem addDeclarations_append (before : List (Text × Text)) (ds es : List Text) :
    addDeclarations before (ds ++ es) =
      addDeclarations before ds >>= fun now => addDeclarations now es := by
  induction ds generalizing before with
  | nil => rfl
  | cons d ds ih =>
    rw [List.cons_append, addDeclarations, addDeclarations]
    split
    · exact ih before
    · split
      · rfl
      · split
        · rfl
        · split
          · exact ih before
          · exact ih _

theorem declare_append_semicolon (before : List (Text × Text)) (u v : Text) :
    declare before (u ++ ';' :: v) = declare before u >>= fun now => declare now v := by
  unfold declare
  rw [splitOn_append_mark, addDeclarations_append]

/-- Blanks in front of a declaration do not matter, not even to its fault. -/
theorem addDeclarations_blank {a : Text} (h : allBlank a = true) (before : List (Text × Text))
    (d : Text) (ds : List Text) :
    addDeclarations before ((a ++ d) :: ds) = addDeclarations before (d :: ds) := by
  rw [addDeclarations, addDeclarations, allBlank_append, h, Bool.true_and, trim_blank_append h,
    cut?_append_of_not_mem (colon_not_mem h)]
  cases cut? [':'] d with
  | none => rfl
  | some p =>
    dsimp only [Option.map_some]
    rw [allBlank_append, h, Bool.true_and, trim_blank_append h]

theorem declare_blank_append {a : Text} (h : allBlank a = true) (before : List (Text × Text))
    (t : Text) : declare before (a ++ t) = declare before t := by
  obtain ⟨p, ps, ht⟩ := List.exists_cons_of_ne_nil (splitOn_ne_nil (c := ';') t)
  unfold declare
  rw [splitOn_append (semicolon_not_mem h) ht, ht, addDeclarations_blank h]

theorem declare_blank {a : Text} (h : allBlank a = true) (before : List (Text × Text)) :
    declare before a = .ok before := by
  unfold declare
  rw [splitOn_of_not_mem (semicolon_not_mem h), addDeclarations, if_pos h, addDeclarations]

/-- A single declaration. -/
theorem declare_pair {name value : Text} (hcolon : ':' ∉ name) (hname : ';' ∉ name)
    (hvalue : ';' ∉ value) {before now : List (Text × Text)}
    (h : declare before (name ++ ':' :: value) = .ok now) :
    allBlank name = false ∧
      now = if allBlank value then before else put (key (trim name)) (trim value) before := by
  have hsemicolon : ';' ∉ name ++ ':' :: value := by
    rw [List.mem_append, List.mem_cons, not_or, not_or]
    exact ⟨hname, by decide, hvalue⟩
  have hblank : allBlank (name ++ ':' :: value) = false := by
    rw [allBlank_append, allBlank_cons, show isBlank ':' = false by decide, Bool.false_and,
      Bool.and_false]
  unfold declare at h
  rw [splitOn_of_not_mem hsemicolon, addDeclarations, hblank, if_neg Bool.false_ne_true,
    cut?_char hcolon] at h
  dsimp only at h
  cases hn : allBlank name with
  | true =>
    rw [hn, if_pos rfl] at h
    cases h
  | false =>
    rw [hn, if_neg Bool.false_ne_true] at h
    refine ⟨rfl, ?_⟩
    split at h
    next hv =>
      rw [if_pos hv]
      exact (Except.ok.inj h).symm
    next hv =>
      rw [if_neg hv]
      exact (Except.ok.inj h).symm

/-! ## Settled texts -/

/-- No declaration is pending at the end of the text. -/
def Settled (t : Text) : Prop :=
  allBlank t = true ∨ ∃ u w, t = u ++ ';' :: w ∧ allBlank w = true

theorem settled_nil : Settled [] := .inl rfl

theorem settled_append_semicolon (t : Text) : Settled (t ++ [';']) := .inr ⟨t, [], rfl, rfl⟩

theorem Settled.append {t v : Text} (ht : Settled t) (hv : Settled v) : Settled (t ++ v) := by
  rcases hv with hv | ⟨u, w, rfl, hw⟩
  · rcases ht with ht | ⟨u, w, rfl, hw⟩
    · exact .inl (by rw [allBlank_append, ht, hv]; rfl)
    · refine .inr ⟨u, w ++ v, by rw [List.append_assoc, List.cons_append], ?_⟩
      rw [allBlank_append, hw, hv]
      rfl
  · exact .inr ⟨t ++ u, w, by rw [List.append_assoc], hw⟩

/-- What stands behind the last semicolon of a settled text is blank. -/
theorem Settled.allBlank_of_append {t q : Text} (h : Settled (t ++ q)) (hq : ';' ∉ q) :
    allBlank q = true := by
  rcases h with h | ⟨u, w, htq, hw⟩
  · rw [allBlank_append, Bool.and_eq_true] at h
    exact h.2
  · rcases List.append_eq_append_iff.mp htq with ⟨x, -, hx⟩ | ⟨x, -, hx⟩
    · exact absurd (hx ▸ List.mem_append_right x List.mem_cons_self) hq
    · cases x with
      | nil =>
        rw [List.nil_append] at hx
        exact absurd (hx ▸ List.mem_cons_self) hq
      | cons c x =>
        have hsuffix : w = x ++ q := (List.cons.inj hx).2
        rw [hsuffix, allBlank_append, Bool.and_eq_true] at hw
        exact hw.2

/-- What follows a settled text is declared after it. -/
theorem declare_append_of_settled {t : Text} (h : Settled t) (before : List (Text × Text))
    (v : Text) : declare before (t ++ v) = declare before t >>= fun now => declare now v := by
  rcases h with h | ⟨u, w, rfl, hw⟩
  · rw [declare_blank_append h, declare_blank h]
    rfl
  · rw [List.append_assoc, List.cons_append, declare_append_semicolon, declare_append_semicolon]
    cases declare before u with
    | error fault => rfl
    | ok now =>
      show declare now (w ++ v) = declare now w >>= fun now => declare now v
      rw [declare_blank_append hw, declare_blank hw]
      rfl

/-! ## Maps -/

theorem lookup_cons_ite (k key value : Text) (d : List (Text × Text)) :
    ((key, value) :: d).lookup k = if k = key then some value else d.lookup k := by
  rw [List.lookup_cons]
  by_cases hk : k = key
  · rw [if_pos hk, beq_iff_eq.mpr hk]
  · rw [if_neg hk, beq_eq_false_iff_ne.mpr hk]

theorem lookup_put (k key value : Text) (d : List (Text × Text)) :
    (put key value d).lookup k = if k = key then some value else d.lookup k := by
  induction d with
  | nil => exact lookup_cons_ite k key value []
  | cons p d ih =>
    obtain ⟨key', value'⟩ := p
    rw [put, lookup_cons_ite]
    by_cases hkey : key' = key
    · rw [if_pos hkey, lookup_cons_ite]
      by_cases hk : k = key <;> simp_all
    · rw [if_neg hkey, lookup_cons_ite, ih]
      by_cases hk : k = key' <;> simp_all

theorem mem_keys_put {k key value : Text} {d : List (Text × Text)}
    (h : k ∈ (put key value d).map Prod.fst) : k = key ∨ k ∈ d.map Prod.fst := by
  induction d with
  | nil => exact .inl (List.mem_singleton.mp h)
  | cons p d ih =>
    rw [put] at h
    split at h
    · exact .inr h
    · rw [List.map_cons, List.mem_cons] at h ⊢
      rcases h with h | h
      · exact .inr (.inl h)
      · exact (ih h).imp_right .inr

theorem nodup_put {key value : Text} {d : List (Text × Text)} (h : (d.map Prod.fst).Nodup) :
    ((put key value d).map Prod.fst).Nodup := by
  induction d with
  | nil => exact List.nodup_cons.mpr ⟨List.not_mem_nil, List.nodup_nil⟩
  | cons p d ih =>
    obtain ⟨hp, hd⟩ := List.nodup_cons.mp h
    rw [put]
    split
    · exact h
    next hkey =>
      refine List.nodup_cons.mpr ⟨fun hmem => ?_, ih hd⟩
      exact (mem_keys_put hmem).elim hkey hp

/-- Every key is declared once. -/
theorem nodup_addDeclarations {before now : List (Text × Text)} {ds : List Text}
    (hbefore : (before.map Prod.fst).Nodup) (h : addDeclarations before ds = .ok now) :
    (now.map Prod.fst).Nodup := by
  induction ds generalizing before with
  | nil =>
    cases h
    exact hbefore
  | cons d ds ih =>
    rw [addDeclarations] at h
    split at h
    · exact ih hbefore h
    · split at h
      · cases h
      · split at h
        · cases h
        · split at h
          · exact ih hbefore h
          · exact ih (nodup_put hbefore) h

end Stencil.Style
