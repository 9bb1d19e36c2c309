import Stencil.Proofs.Style.Declaration

/-!
# The mapping that declarations make

A declaration is blank, or it has no colon, or it is a name and a value with a colon between them.
One that is not blank has to have a name (`Malformed`). If all have one, the pairs that they give are
put into a mapping one after another (`addDeclarations_of_sound`), and if one has none, there is no
mapping (`declarations_fail_iff`). A key stands in the mapping where it is first declared, with the
value that is declared last (`merges_putAll`).
-/

namespace Stencil.Style

open Text

/-! ## Single declarations -/

/-- What a declaration can look like. -/
inductive Shape : Text → Prop where
  | blank {d : Text} (h : allBlank d = true) : Shape d
  | bare {d : Text} (hblank : allBlank d = false) (hcolon : ':' ∉ d) : Shape d
  | pair (name value : Text) (hcolon : ':' ∉ name) : Shape (name ++ ':' :: value)

theorem shape (d : Text) : Shape d := by
  by_cases hcolon : ':' ∈ d
  · obtain ⟨name, value, rfl, hname⟩ := List.eq_append_cons_of_mem hcolon
    exact .pair name value hname
  · cases hblank : allBlank d with
    | true => exact .blank hblank
    | false => exact .bare hblank hcolon

theorem not_blank_pair (name value : Text) : allBlank (name ++ ':' :: value) = false := by
  rw [allBlank_append, allBlank_cons, show isBlank ':' = false by decide, Bool.false_and,
    Bool.and_false]

/-- Nothing but blanks stands before the first colon. -/
def Nameless (d : Text) : Prop :=
  ∃ name value, d = name ++ ':' :: value ∧ allBlank name = true

/-- A declaration without a colon, or without a name before it. -/
def Malformed (d : Text) : Prop := allBlank d = false ∧ (':' ∉ d ∨ Nameless d)

theorem pair_unique {name value before after : Text} (hcolon : ':' ∉ name) (hbefore : ':' ∉ before)
    (h : name ++ ':' :: value = before ++ ':' :: after) : name = before ∧ value = after := by
  have hcut := cut?_char hcolon value
  rw [h, cut?_char hbefore after] at hcut
  cases hcut
  exact ⟨rfl, rfl⟩

theorem malformed_pair_iff {name value : Text} (hcolon : ':' ∉ name) :
    Malformed (name ++ ':' :: value) ↔ allBlank name = true := by
  constructor
  · rintro ⟨-, hnone | ⟨before, after, heq, hblank⟩⟩
    · exact absurd (List.mem_append_right name List.mem_cons_self) hnone
    · rw [(pair_unique hcolon (colon_not_mem hblank) heq).1]
      exact hblank
  · intro hblank
    exact ⟨not_blank_pair name value, .inr ⟨name, value, rfl, hblank⟩⟩

/-- The key and the value that a declaration gives, none if the value is blank. -/
def pair? (d : Text) : Option (Text × Text) :=
  match cut? [':'] d with
  | none => none
  | some (name, value) =>
    if allBlank value then none else some (key (trim name), trim value)

theorem cut?_colon {d : Text} (h : ':' ∉ d) : cut? [':'] d = none :=
  (cut?_eq_none_iff (List.cons_ne_nil _ _)).mpr fun hin => h (hin.subset List.mem_cons_self)

theorem pair?_of_not_mem {d : Text} (h : ':' ∉ d) : pair? d = none := by
  rw [pair?, cut?_colon h]

theorem pair?_pair {name : Text} (hcolon : ':' ∉ name) (value : Text) :
    pair? (name ++ ':' :: value) =
      if allBlank value then none else some (key (trim name), trim value) := by
  rw [pair?, cut?_char hcolon]

/-! ## Declarations one after another -/

/-- Puts pairs into a mapping one after another. -/
def putAll (before pairs : List (Text × Text)) : List (Text × Text) :=
  pairs.foldl (fun now p => put p.1 p.2 now) before

variable {d : Text} {ds : List Text}

theorem addDeclarations_cons_of_malformed (h : Malformed d) (before : List (Text × Text)) :
    addDeclarations before (d :: ds) = .error (.malformed (trim d)) := by
  rw [addDeclarations, h.1, if_neg Bool.false_ne_true]
  rcases h.2 with hcolon | ⟨name, value, rfl, hname⟩
  · rw [cut?_colon hcolon]
  · rw [cut?_char (colon_not_mem hname)]
    exact if_pos hname

theorem addDeclarations_cons_of_sound (h : ¬ Malformed d) (before : List (Text × Text)) :
    addDeclarations before (d :: ds) =
      addDeclarations (putAll before (pair? d).toList) ds := by
  cases shape d with
  | blank hblank =>
    rw [addDeclarations, if_pos hblank, pair?_of_not_mem (colon_not_mem hblank)]
    rfl
  | bare hblank hcolon => exact absurd ⟨hblank, .inl hcolon⟩ h
  | pair name value hcolon =>
    have hname : allBlank name = false :=
      Bool.eq_false_iff.mpr fun hblank => h ((malformed_pair_iff hcolon).mpr hblank)
    rw [addDeclarations, not_blank_pair, if_neg Bool.false_ne_true, cut?_char hcolon,
      pair?_pair hcolon]
    dsimp only
    rw [hname, if_neg Bool.false_ne_true]
    split <;> rfl

/-- The pairs of the declarations are put into the mapping one after another. -/
theorem addDeclarations_of_sound (h : ∀ d ∈ ds, ¬ Malformed d) (before : List (Text × Text)) :
    addDeclarations before ds = .ok (putAll before (ds.filterMap pair?)) := by
  induction ds generalizing before with
  | nil => rfl
  | cons d ds ih =>
    obtain ⟨hd, hds⟩ := List.forall_mem_cons.mp h
    rw [addDeclarations_cons_of_sound hd, ih hds, putAll, putAll, putAll, ← List.foldl_append,
      List.filterMap_cons]
    cases pair? d <;> rfl

theorem addDeclarations_of_malformed (hd : d ∈ ds) (h : Malformed d)
    (before : List (Text × Text)) : ∃ fault, addDeclarations before ds = .error fault := by
  induction ds generalizing before with
  | nil => cases hd
  | cons e ds ih =>
    by_cases he : Malformed e
    · exact ⟨_, addDeclarations_cons_of_malformed he before⟩
    · rw [addDeclarations_cons_of_sound he]
      refine ih ?_ _
      rcases List.mem_cons.mp hd with rfl | hd
      · exact absurd h he
      · exact hd

/-- A literal text declares nothing exactly because of a malformed declaration. -/
theorem declarations_fail_iff (t : Text) :
    (∃ fault, declarations t = .error fault) ↔ ∃ d ∈ splitOn ';' t, Malformed d := by
  constructor
  · rintro ⟨fault, hfault⟩
    apply Classical.byContradiction
    intro hnone
    have hok := addDeclarations_of_sound (fun d hd h => hnone ⟨d, hd, h⟩) []
    rw [show addDeclarations [] (splitOn ';' t) = .error fault from hfault] at hok
    cases hok
  · rintro ⟨d, hd, h⟩
    exact addDeclarations_of_malformed hd h []

/-! ## Keys that are declared more than once -/

/-- The mapping of pairs: a key stands where it comes first, with the value that comes last. -/
structure Merges (pairs mapping : List (Text × Text)) : Prop where
  keys : mapping.map Prod.fst = (pairs.map Prod.fst).eraseDups
  values (k : Text) : mapping.lookup k = pairs.reverse.lookup k

theorem keys_put_of_mem {key : Text} {d : List (Text × Text)} (h : key ∈ d.map Prod.fst)
    (value : Text) : (put key value d).map Prod.fst = d.map Prod.fst := by
  induction d with
  | nil => cases h
  | cons p d ih =>
    rw [put]
    by_cases hp : p.1 = key
    · rw [if_pos hp]
      rfl
    · rw [List.map_cons, List.mem_cons] at h
      rw [if_neg hp, List.map_cons, ih (h.resolve_left (Ne.symm hp)), List.map_cons]

theorem put_of_not_mem {key : Text} {d : List (Text × Text)} (h : key ∉ d.map Prod.fst)
    (value : Text) : put key value d = d ++ [(key, value)] := by
  induction d with
  | nil => rfl
  | cons p d ih =>
    rw [List.map_cons, List.mem_cons, not_or] at h
    rw [put, if_neg (Ne.symm h.1), ih h.2, List.cons_append]

theorem eraseDups_concat_of_mem {ks : List Text} {k : Text} (h : k ∈ ks) :
    (ks ++ [k]).eraseDups = ks.eraseDups := by
  rw [List.eraseDups_append, show [k].removeAll ks = [] by simp [List.removeAll, h]]
  exact List.append_nil _

theorem eraseDups_concat_of_not_mem {ks : List Text} {k : Text} (h : k ∉ ks) :
    (ks ++ [k]).eraseDups = ks.eraseDups ++ [k] := by
  rw [List.eraseDups_append, show [k].removeAll ks = [k] by simp [List.removeAll, h]]
  rfl

theorem Merges.put {pairs mapping : List (Text × Text)} (h : Merges pairs mapping)
    (p : Text × Text) : Merges (pairs ++ [p]) (put p.1 p.2 mapping) where
  keys := by
    have hmem : p.1 ∈ mapping.map Prod.fst ↔ p.1 ∈ pairs.map Prod.fst := by
      rw [h.keys, List.mem_eraseDups]
    rw [List.map_append, List.map_cons, List.map_nil]
    by_cases hp : p.1 ∈ pairs.map Prod.fst
    · rw [keys_put_of_mem (hmem.mpr hp), eraseDups_concat_of_mem hp, h.keys]
    · rw [put_of_not_mem (fun hm => hp (hmem.mp hm)), eraseDups_concat_of_not_mem hp,
        List.map_append, h.keys]
      rfl
  values k := by
    rw [lookup_put, h.values, List.reverse_append, List.reverse_singleton, List.singleton_append,
      ← lookup_cons_ite]

theorem Merges.putAll {before mapping : List (Text × Text)} (h : Merges before mapping)
    (pairs : List (Text × Text)) : Merges (before ++ pairs) (putAll mapping pairs) := by
  induction pairs generalizing before mapping with
  | nil =>
    rw [List.append_nil]
    exact h
  | cons p pairs ih =>
    rw [List.append_cons]
    exact ih (h.put p)

theorem merges_putAll (pairs : List (Text × Text)) : Merges pairs (putAll [] pairs) :=
  have hnil : Merges [] [] := ⟨rfl, fun _ => rfl⟩
  hnil.putAll pairs

/-- Pairs with different keys are all in the mapping, in their order. -/
theorem putAll_of_nodup {before pairs : List (Text × Text)}
    (h : ((before ++ pairs).map Prod.fst).Nodup) : putAll before pairs = before ++ pairs := by
  induction pairs generalizing before with
  | nil => exact (List.append_nil before).symm
  | cons p pairs ih =>
    have hp : p.1 ∉ before.map Prod.fst := by
      rw [List.map_append, List.map_cons, List.nodup_append] at h
      exact fun hmem => h.2.2 p.1 hmem p.1 List.mem_cons_self rfl
    rw [List.append_cons] at h
    show putAll (put p.1 p.2 before) pairs = _
    rw [put_of_not_mem hp, ih h, ← List.append_cons]

end Stencil.Style
