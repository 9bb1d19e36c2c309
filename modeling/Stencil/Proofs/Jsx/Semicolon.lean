import Stencil.Proofs.Jsx.Meaning
import Stencil.Proofs.Style.Declaration
import Stencil.Proofs.Text.StringLiteral

/-!
# Semicolons of written objects

Writing keeps semicolons: a string literal, the inside of a template literal and the key of a
property have as many as the text they are made from, and an object has those of its entries. Of the
declarations that a literal text makes none has a semicolon in its key or in its value
(`Style.unmarked_declarations`).
-/

namespace Stencil

namespace Text

theorem count_eq_zero_of_allBlank {t : Text} (h : allBlank t = true) : t.count ';' = 0 :=
  List.count_eq_zero.mpr (Style.semicolon_not_mem h)

theorem count_trimStart (t : Text) : (trimStart t).count ';' = t.count ';' := by
  obtain ⟨a, ha, ht⟩ := exists_eq_append_trimStart t
  have hcount := congrArg (List.count ';') ht
  rw [List.count_append, count_eq_zero_of_allBlank ha, Nat.zero_add] at hcount
  exact hcount.symm

theorem count_trimEnd (t : Text) : (trimEnd t).count ';' = t.count ';' := by
  obtain ⟨b, hb, ht⟩ := exists_eq_trimEnd_append t
  have hcount := congrArg (List.count ';') ht
  rw [List.count_append, count_eq_zero_of_allBlank hb, Nat.add_zero] at hcount
  exact hcount.symm

theorem count_trim (t : Text) : (trim t).count ';' = t.count ';' := by
  rw [trim, count_trimEnd, count_trimStart]

variable {d : Char}

/-- A text that is written character by character keeps a character that each of them keeps. -/
theorem count_flatMap_same {f : Char → Text} (h : ∀ c, (f c).count d = [c].count d) (t : Text) :
    (t.flatMap f).count d = t.count d := by
  induction t with
  | nil => rfl
  | cons c t ih => rw [List.flatMap_cons, List.count_append, h, ih, ← List.count_append,
      List.singleton_append]

theorem count_joinWith {separator : Text} (h : d ∉ separator) (ts : List Text) :
    (joinWith separator ts).count d = ts.flatten.count d := by
  unfold joinWith
  induction ts with
  | nil => rfl
  | cons t ts ih =>
    cases ts with
    | nil => rfl
    | cons u us =>
      rw [List.intersperse_cons_cons, List.flatten_cons, List.flatten_cons, List.count_append,
        List.count_append, List.count_eq_zero.mpr h, Nat.zero_add, ih, ← List.count_append,
        ← List.flatten_cons]

/-! ## Letter case -/

theorem ofNat_ne_semicolon {n : Nat} (h : 0x3B < n) : Char.ofNat n ≠ ';' := by
  intro hc
  by_cases hvalid : n.isValidChar
  · have hn : (Char.ofNat n).toNat = n := by
      rw [Char.ofNat, dif_pos hvalid]
      rfl
    rw [hc] at hn
    exact absurd h (hn ▸ Nat.lt_irrefl _)
  · rw [Char.ofNat, dif_neg hvalid] at hc
    cases hc

/-- The tables of upper forms begin after the semicolon, and so do the forms. -/
theorem upper_tables : (∀ p ∈ upperExpansions, 0x3B < p.1 ∧ ∀ n ∈ p.2, 0x3B < n) ∧
    ∀ run ∈ upperRuns, 0x3B < run.first ∧ 0x3B < run.target := by
  decide +kernel

theorem count_upperForm (c : Char) : (upperForm c).count ';' = [c].count ';' := by
  have hexpansions := upper_tables.1
  have hruns := upper_tables.2
  have hnone {n : Nat} (hn : 0x3B < n) : ';' ∉ [Char.ofNat n] := fun hmem =>
    ofNat_ne_semicolon hn (List.mem_singleton.mp hmem).symm
  have hchar (hc : 0x3B < c.toNat) : [c].count ';' = 0 := by
    have := hnone hc
    rw [Char.ofNat_toNat] at this
    exact List.count_eq_zero.mpr this
  unfold upperForm
  split
  next codes hcodes =>
    obtain ⟨before, later, htable, -⟩ := List.lookup_eq_some_iff.mp hcodes
    obtain ⟨hc, himage⟩ := hexpansions (c.toNat, codes) (htable ▸ by simp)
    rw [hchar hc, List.count_eq_zero]
    intro hmem
    obtain ⟨n, hn, hsemicolon⟩ := List.mem_map.mp hmem
    exact ofNat_ne_semicolon (himage n hn) hsemicolon
  next =>
    unfold caseImage
    cases himage : upperRuns.findSome? (CaseRun.image? · c.toNat) with
    | none => rw [Option.getD_none, Char.ofNat_toNat]
    | some image =>
      obtain ⟨run, hrun, himage⟩ := List.exists_of_findSome?_eq_some himage
      obtain ⟨hfirst, htarget⟩ := hruns run hrun
      unfold CaseRun.image? at himage
      split at himage
      next hin =>
        simp only [Bool.and_eq_true, decide_eq_true_eq] at hin
        cases himage
        rw [Option.getD_some, List.count_eq_zero.mpr (hnone (by omega)), hchar (by omega)]
      next => cases himage

/-! ## Literals -/

theorem utf16_lt {c : Char} {unit : Nat} (h : unit ∈ utf16 c) : unit < 0x10000 := by
  have hvalid : c.toNat < 0xD800 ∨ 0xDFFF < c.toNat ∧ c.toNat < 0x110000 := c.valid
  by_cases hplane : c.toNat < 0x10000
  · rw [utf16_one hplane, List.mem_singleton] at h
    omega
  · rw [utf16_pair hplane, List.mem_cons, List.mem_singleton] at h
    omega

theorem digitChar_ne_semicolon (n : Nat) : n.digitChar ≠ ';' := by
  grind [Nat.digitChar]

theorem semicolon_not_mem_units (c : Char) :
    ';' ∉ (utf16 c).flatMap fun unit => '\\' :: 'u' :: hex 4 unit := by
  intro h
  obtain ⟨unit, hunit, hmem⟩ := List.mem_flatMap.mp h
  rw [hex_four (utf16_lt hunit)] at hmem
  simp [(digitChar_ne_semicolon _).symm] at hmem

theorem count_escapedChar {verbatim : Char → Bool} (hverbatim : verbatim ';' = true) (c : Char) :
    (escapedChar verbatim c).count ';' = [c].count ';' := by
  by_cases hc : c = ';'
  · subst hc
    simp [escapedChar, shortEscape?, hverbatim]
  have hnone : [c].count ';' = 0 := by
    rw [List.count_eq_zero, List.mem_singleton]
    exact Ne.symm hc
  unfold escapedChar
  split
  next escape hescape =>
    unfold shortEscape? at hescape
    repeat' split at hescape
    all_goals cases hescape
    all_goals exact hnone.symm
  next =>
    split
    · rfl
    · rw [hnone, List.count_eq_zero]
      exact semicolon_not_mem_units c

@[simp] theorem count_stringLiteral (t : Text) : (stringLiteral t).count ';' = t.count ';' := by
  simp [stringLiteral, count_flatMap_same (count_escapedChar _)]

@[simp] theorem count_asciiLiteral (t : Text) : (asciiLiteral t).count ';' = t.count ';' := by
  simp [asciiLiteral, count_flatMap_same (count_escapedChar _)]

end Text

open Text

namespace Style

/-! ## Declarations -/

theorem count_camelCase (t : Text) : (camelCase t).count ';' = t.count ';' := by
  fun_induction camelCase t with
  | case1 => rfl
  | case2 cs ih => simp [ih]
  | case3 c cs _ ih =>
    rw [List.count_append, count_upperForm, ih, ← List.count_append, List.singleton_append]
    exact (List.count_cons_of_ne (by decide)).symm
  | case4 c cs _ ih => simp [List.count_cons, ih]

theorem count_key (name : Text) : (key name).count ';' = name.count ';' := by
  unfold key
  split
  · rfl
  · split
    next hvendor =>
      obtain ⟨rest, rfl⟩ := List.isPrefixOf_iff_prefix.mp hvendor
      rw [count_camelCase]
      rfl
    next => exact count_camelCase name

theorem mem_put {key value : Text} {d : List (Text × Text)} {p : Text × Text}
    (h : p ∈ put key value d) : p = (key, value) ∨ p ∈ d := by
  induction d with
  | nil => exact .inl (List.mem_singleton.mp h)
  | cons q d ih =>
    rw [put] at h
    split at h
    next hkey =>
      rw [List.mem_cons, hkey] at h
      exact h.imp_right (List.mem_cons_of_mem _)
    next =>
      rw [List.mem_cons] at h ⊢
      rcases h with h | h
      · exact .inr (.inl h)
      · exact (ih h).imp_right .inr

/-- Neither a key nor a value has a semicolon. -/
def Unmarked (declared : List (Text × Text)) : Prop :=
  ∀ p ∈ declared, p.1.count ';' = 0 ∧ p.2.count ';' = 0

theorem unmarked_addDeclarations {before now : List (Text × Text)} {ds : List Text}
    (hds : ∀ d ∈ ds, ';' ∉ d) (hbefore : Unmarked before)
    (h : addDeclarations before ds = .ok now) : Unmarked now := by
  induction ds generalizing before with
  | nil =>
    cases h
    exact hbefore
  | cons d ds ih =>
    obtain ⟨hd, hds⟩ := List.forall_mem_cons.mp hds
    rw [addDeclarations] at h
    split at h
    · exact ih hds hbefore h
    · split at h
      · cases h
      next name value hcut =>
        split at h
        · cases h
        · split at h
          · exact ih hds hbefore h
          · refine ih hds ?_ h
            obtain ⟨rfl, -⟩ := cut?_sound (List.cons_ne_nil _ _) hcut
            rw [List.append_assoc, List.mem_append, not_or] at hd
            intro p hp
            rcases mem_put hp with rfl | hp
            · rw [count_key, count_trim, count_trim, List.count_eq_zero, List.count_eq_zero]
              exact ⟨hd.1, fun hmem => hd.2 (List.mem_cons_of_mem _ hmem)⟩
            · exact hbefore p hp

theorem unmarked_declarations {t : Text} {declared : List (Text × Text)}
    (h : declarations t = .ok declared) : Unmarked declared := by
  refine unmarked_addDeclarations (fun d hd => ?_) (fun p hp => ?_) h
  · exact not_mem_of_mem_splitOn hd
  · cases hp

end Style

namespace Jsx

/-! ## Written objects -/

theorem count_escapeLiteral (t : Text) : (escapeLiteral t).count ';' = t.count ';' := by
  rw [escapeLiteral_eq_escapeOnce]
  fun_induction escapeOnce t with
  | case1 => rfl
  | case2 cs ih => simp [ih]
  | case3 c cs _ hc ih => simp [List.count_cons, ih]
  | case4 c cs _ hc ih => simp [List.count_cons, ih]

@[simp] theorem count_inserted (source : Text) :
    (inserted source).count ';' = source.count ';' := by
  simp [inserted]

@[simp] theorem count_backquoted (inside : Text) :
    (backquoted inside).count ';' = inside.count ';' := by
  simp [backquoted]

@[simp] theorem count_object (entries : List Text) :
    (object entries).count ';' = entries.flatten.count ';' := by
  have hjoin := count_joinWith (show ';' ∉ [',', ' '] by decide) entries
  simp [object, hjoin]

@[simp] theorem count_spreadOf (test yes no : Text) :
    (spreadOf test yes no).count ';' = test.count ';' + (yes.count ';' + no.count ';') := by
  unfold spreadOf
  simp

theorem Segment.count_choice (test : Text) (yes no : List Segment) :
    (Segment.choice test yes no).print.count ';' =
      test.count ';' + ((printAll yes).count ';' + (printAll no).count ';') := by
  simp [Segment.print]

theorem Segment.printAll_append (ps qs : List Segment) :
    printAll (ps ++ qs) = printAll ps ++ printAll qs := by
  induction ps with
  | nil => rfl
  | cons p ps ih => rw [List.cons_append, printAll, printAll, ih, List.append_assoc]

theorem StyleEntry.printAll_append (es fs : List StyleEntry) :
    printAll (es ++ fs) = printAll es ++ printAll fs := by
  induction es with
  | nil => rfl
  | cons e es ih => rw [List.cons_append, printAll, printAll, ih, List.cons_append]

/-- How many semicolons the entries have. -/
def StyleEntry.semicolons (es : List StyleEntry) : Nat := (printAll es).flatten.count ';'

theorem StyleEntry.semicolons_append (es fs : List StyleEntry) :
    semicolons (es ++ fs) = semicolons es + semicolons fs := by
  rw [semicolons, printAll_append, List.flatten_append, List.count_append]
  rfl

theorem Style.count_literal {declared : List (Text × Text)} (h : Stencil.Style.Unmarked declared) :
    (Style.literal declared).print.count ';' = 0 := by
  have hjoined {members : List Text} (hmembers : ∀ member ∈ members, ';' ∉ member) :
      (('{' :: joinWith [','] members) ++ ['}']).count ';' = 0 := by
    have hnone : members.flatten.count ';' = 0 := by
      rw [List.count_eq_zero, List.mem_flatten]
      rintro ⟨member, hmember, hmem⟩
      exact hmembers member hmember hmem
    simp [count_joinWith (show ';' ∉ [','] by decide) members, hnone]
  refine hjoined fun member hmember => ?_
  obtain ⟨⟨key, value⟩, hp, rfl⟩ := List.mem_map.mp hmember
  rw [← List.count_eq_zero]
  simp [h _ hp]

end Jsx

end Stencil
