import Stencil.Proofs.Style.Mapping

/-!
# Names of properties

The name of a property is made of words of small letters with hyphens between them, and a hyphen
before the first word marks a vendor's property. Camel case can be undone on such names: every
capital stands for a hyphen and a small letter (`hyphenated_camelCase`). So different properties
have different keys, except that the vendor `-ms-` loses its hyphen. Declarations of different
properties all stand in the mapping that they make (`distinct_properties_declared`).
-/

namespace Stencil.Style

open Text

/-! ## Letters -/

/-- What holds of the small letters one by one. -/
theorem forall_isLower {p : Char → Prop} (h : ∀ i : Fin 26, p (Char.ofNat (0x61 + i.val)))
    {c : Char} (hc : c.isLower = true) : p c := by
  have hrange : 0x61 ≤ c.toNat ∧ c.toNat ≤ 0x7A := by
    obtain ⟨hfirst, hlast⟩ := Bool.and_eq_true_iff.mp hc
    exact ⟨of_decide_eq_true hfirst, of_decide_eq_true hlast⟩
  have hletter := h ⟨c.toNat - 0x61, by omega⟩
  rwa [show 0x61 + (c.toNat - 0x61) = c.toNat by omega, Char.ofNat_toNat] at hletter

variable {c : Char}

theorem upperForm_of_isLower (h : c.isLower = true) : upperForm c = [c.toUpper] :=
  forall_isLower (p := fun c => upperForm c = [c.toUpper]) (by decide) h

theorem ne_of_isLower (h : c.isLower = true) : c ≠ '-' ∧ c ≠ '\n' ∧ c ≠ ':' :=
  forall_isLower (p := fun c => c ≠ '-' ∧ c ≠ '\n' ∧ c ≠ ':') (by decide) h

/-- A capital as a hyphen and a small letter. -/
def hyphenatedChar (c : Char) : Text := if c.isUpper then ['-', c.toLower] else [c]

theorem hyphenatedChar_of_isLower (h : c.isLower = true) : hyphenatedChar c = [c] :=
  forall_isLower (p := fun c => hyphenatedChar c = [c]) (by decide) h

theorem hyphenatedChar_toUpper (h : c.isLower = true) : hyphenatedChar c.toUpper = ['-', c] :=
  forall_isLower (p := fun c => hyphenatedChar c.toUpper = ['-', c]) (by decide) h

/-! ## Names -/

/-- Words of small letters with single hyphens between them. -/
inductive IsWords : Text → Prop where
  | last {c : Char} (hc : c.isLower = true) : IsWords [c]
  | letter {c : Char} {t : Text} (hc : c.isLower = true) (ht : IsWords t) : IsWords (c :: t)
  | hyphen {c : Char} {t : Text} (hc : c.isLower = true) (ht : IsWords t) :
      IsWords (c :: '-' :: t)

/-- The name of a property, perhaps a vendor's. -/
def IsProperty (name : Text) : Prop := IsWords name ∨ ∃ words, name = '-' :: words ∧ IsWords words

/-- The text with every capital as a hyphen and a small letter. -/
def hyphenated (t : Text) : Text := t.flatMap hyphenatedChar

variable {t name : Text}

theorem IsWords.head (h : IsWords t) : ∃ c rest, t = c :: rest ∧ c.isLower = true := by
  cases h with
  | last hc | letter hc | hyphen hc => exact ⟨_, _, rfl, hc⟩

theorem camelCase_letter (hc : c.isLower = true) (t : Text) :
    camelCase (c :: t) = c :: camelCase t := by
  rw [camelCase]
  exact fun _ _ hhyphen => absurd hhyphen (ne_of_isLower hc).1

theorem camelCase_hyphen (hc : c.isLower = true) (t : Text) :
    camelCase ('-' :: c :: t) = c.toUpper :: camelCase t := by
  rw [camelCase, if_neg (ne_of_isLower hc).2.1, upperForm_of_isLower hc, List.singleton_append]

theorem hyphenated_letter (hc : c.isLower = true) (t : Text) :
    hyphenated (c :: t) = c :: hyphenated t := by
  rw [hyphenated, List.flatMap_cons, hyphenatedChar_of_isLower hc]
  rfl

theorem hyphenated_capital (hc : c.isLower = true) (t : Text) :
    hyphenated (c.toUpper :: t) = '-' :: c :: hyphenated t := by
  rw [hyphenated, List.flatMap_cons, hyphenatedChar_toUpper hc]
  rfl

/-- A hyphen before words is undone with them. -/
theorem hyphenated_camelCase_hyphen (ht : IsWords t) (h : hyphenated (camelCase t) = t) :
    hyphenated (camelCase ('-' :: t)) = '-' :: t := by
  obtain ⟨c, rest, rfl, hc⟩ := ht.head
  rw [camelCase_letter hc, hyphenated_letter hc] at h
  rw [camelCase_hyphen hc, hyphenated_capital hc, (List.cons.inj h).2]

theorem IsWords.hyphenated_camelCase (h : IsWords t) : hyphenated (camelCase t) = t := by
  induction h with
  | last hc =>
    rw [camelCase_letter hc, hyphenated_letter hc]
    rfl
  | letter hc _ ih => rw [camelCase_letter hc, hyphenated_letter hc, ih]
  | hyphen hc ht ih =>
    rw [camelCase_letter hc, hyphenated_letter hc, hyphenated_camelCase_hyphen ht ih]

theorem IsProperty.hyphenated_camelCase (h : IsProperty name) :
    hyphenated (camelCase name) = name := by
  rcases h with h | ⟨words, rfl, h⟩
  · exact h.hyphenated_camelCase
  · exact hyphenated_camelCase_hyphen h h.hyphenated_camelCase

/-! ## Keys -/

theorem IsProperty.not_custom (h : IsProperty name) : ['-', '-'].isPrefixOf name = false := by
  rcases h with h | ⟨words, rfl, h⟩
  · obtain ⟨c, rest, rfl, hc⟩ := h.head
    simp [List.isPrefixOf, (ne_of_isLower hc).1.symm]
  · obtain ⟨c, rest, rfl, hc⟩ := h.head
    simp [List.isPrefixOf, (ne_of_isLower hc).1.symm]

/-- What is put in camel case: the name, without its hyphen if the vendor is `-ms-`. -/
def bareName (name : Text) : Text := if "-ms-".toList.isPrefixOf name then name.drop 1 else name

theorem IsProperty.hyphenated_key (h : IsProperty name) :
    hyphenated (key name) = bareName name := by
  rw [key, h.not_custom, if_neg Bool.false_ne_true, bareName]
  split
  next hvendor =>
    rcases h with h | ⟨words, rfl, h⟩
    · obtain ⟨c, rest, rfl, hc⟩ := h.head
      simp [List.isPrefixOf, (ne_of_isLower hc).1.symm] at hvendor
    · exact h.hyphenated_camelCase
  next => exact h.hyphenated_camelCase

/-- A name that does not begin with `ms-` is known from what is put in camel case. -/
theorem eq_of_bareName_eq {other : Text} (hname : ¬ "ms-".toList <+: name)
    (hother : ¬ "ms-".toList <+: other) (h : bareName name = bareName other) : name = other := by
  have hdrop {t : Text} (ht : "-ms-".toList.isPrefixOf t = true) :
      t = '-' :: t.drop 1 ∧ "ms-".toList <+: t.drop 1 := by
    obtain ⟨rest, rfl⟩ := List.isPrefixOf_iff_prefix.mp ht
    exact ⟨rfl, ⟨rest, rfl⟩⟩
  unfold bareName at h
  split at h
  next hvendor =>
    obtain ⟨hcons, hms⟩ := hdrop hvendor
    split at h
    next hvendor' => rw [hcons, h, ← (hdrop hvendor').1]
    next => exact absurd (h ▸ hms) hother
  next =>
    split at h
    next hvendor' => exact absurd (h ▸ (hdrop hvendor').2) hname
    next => exact h

/-- A property whose vendor, if that is `ms`, has its hyphen. -/
structure IsRegular (name : Text) : Prop where
  isProperty : IsProperty name
  unprefixed : ¬ "ms-".toList <+: name

theorem key_injective {other : Text} (hname : IsRegular name) (hother : IsRegular other)
    (h : key name = key other) : name = other := by
  refine eq_of_bareName_eq hname.unprefixed hother.unprefixed ?_
  rw [← hname.isProperty.hyphenated_key, ← hother.isProperty.hyphenated_key, h]

/-- Without its hyphen the vendor would share its keys. -/
example : key "ms-transform".toList = key "-ms-transform".toList := by decide

/-! ## Declarations of properties -/

theorem IsWords.colon_not_mem (h : IsWords t) : ':' ∉ t := by
  induction h with
  | last hc => simp [(ne_of_isLower hc).2.2.symm]
  | letter hc _ ih => simp [(ne_of_isLower hc).2.2.symm, ih]
  | hyphen hc _ ih => simp [(ne_of_isLower hc).2.2.symm, ih]

theorem IsProperty.colon_not_mem (h : IsProperty name) : ':' ∉ name := by
  rcases h with h | ⟨words, rfl, h⟩
  · exact h.colon_not_mem
  · simp [h.colon_not_mem]

theorem IsProperty.ne_nil (h : IsProperty name) : name ≠ [] := by
  rcases h with h | ⟨words, rfl, -⟩
  · obtain ⟨c, rest, rfl, -⟩ := h.head
    exact List.cons_ne_nil _ _
  · exact List.cons_ne_nil _ _

/-- The declarations of a text, blank ones left out, as what stands before and after a colon. -/
def DeclaredAs (t : Text) (pairs : List (Text × Text)) : Prop :=
  (splitOn ';' t).filter (fun d => !allBlank d) = pairs.map fun p => p.1 ++ ':' :: p.2

theorem colon_not_mem_of_trim (h : ':' ∉ trim t) : ':' ∉ t := by
  obtain ⟨a, b, ha, hb, ht⟩ := exists_eq_append_trim_append t
  rw [ht, List.mem_append, List.mem_append, not_or, not_or]
  exact ⟨⟨colon_not_mem ha, h⟩, colon_not_mem hb⟩

variable {pairs : List (Text × Text)}

theorem DeclaredAs.sound (h : DeclaredAs t pairs) (hnames : ∀ p ∈ pairs, IsProperty (trim p.1)) :
    ∀ d ∈ splitOn ';' t, ¬ Malformed d := by
  intro d hd hbad
  have hmem : d ∈ (splitOn ';' t).filter (fun d => !allBlank d) := by
    rw [List.mem_filter, hbad.1]
    exact ⟨hd, rfl⟩
  rw [h, List.mem_map] at hmem
  obtain ⟨p, hp, rfl⟩ := hmem
  have hname := hnames p hp
  have hblank := (malformed_pair_iff (colon_not_mem_of_trim hname.colon_not_mem)).mp hbad
  exact hname.ne_nil (trim_eq_nil_iff.mpr hblank)

/-- Blank declarations give no pair. -/
theorem filterMap_pair?_filter (ds : List Text) :
    (ds.filter fun d => !allBlank d).filterMap pair? = ds.filterMap pair? := by
  induction ds with
  | nil => rfl
  | cons d ds ih =>
    rw [List.filter_cons, List.filterMap_cons]
    cases hblank : allBlank d with
    | true => rw [pair?_of_not_mem (colon_not_mem hblank), if_neg (by decide), ih]
    | false => rw [if_pos (by decide), List.filterMap_cons, ih]

theorem filterMap_pair?_map (h : ∀ p ∈ pairs, IsProperty (trim p.1) ∧ allBlank p.2 = false) :
    (pairs.map fun p => p.1 ++ ':' :: p.2).filterMap pair? =
      pairs.map fun p => (key (trim p.1), trim p.2) := by
  induction pairs with
  | nil => rfl
  | cons p pairs ih =>
    obtain ⟨⟨hname, hvalue⟩, hpairs⟩ := List.forall_mem_cons.mp h
    have hpair : pair? (p.1 ++ ':' :: p.2) = some (key (trim p.1), trim p.2) := by
      rw [pair?_pair (colon_not_mem_of_trim hname.colon_not_mem), hvalue,
        if_neg Bool.false_ne_true]
    rw [List.map_cons, List.filterMap_cons_some hpair, ih hpairs, List.map_cons]

/-- Different properties have different keys, so a text that declares different properties makes a
mapping with one entry for each declaration, in their order. -/
theorem distinct_properties_declared :
    (∀ {name other : Text}, IsRegular name → IsRegular other → key name = key other →
      name = other) ∧
    ∀ {t : Text} {pairs : List (Text × Text)}, DeclaredAs t pairs →
      (∀ p ∈ pairs, IsRegular (trim p.1) ∧ allBlank p.2 = false) →
      (pairs.map fun p => trim p.1).Nodup →
        declarations t = .ok (pairs.map fun p => (key (trim p.1), trim p.2)) := by
  refine ⟨key_injective, fun {t pairs} h hpairs hdistinct => ?_⟩
  have hkeys : ((pairs.map fun p => (key (trim p.1), trim p.2)).map Prod.fst).Nodup := by
    rw [List.map_map, List.Nodup, List.pairwise_map]
    rw [List.Nodup, List.pairwise_map] at hdistinct
    refine hdistinct.imp_of_mem fun {p q} hp hq hne hkey => hne ?_
    exact key_injective (hpairs p hp).1 (hpairs q hq).1 hkey
  rw [declarations, addDeclarations_of_sound (h.sound fun p hp => (hpairs p hp).1.isProperty),
    ← filterMap_pair?_filter, h,
    filterMap_pair?_map fun p hp => ⟨(hpairs p hp).1.isProperty, (hpairs p hp).2⟩,
    putAll_of_nodup hkeys, List.nil_append]

/-- A vendor's property beside the same words without the vendor, and a blank declaration. -/
def flexible : Text := "-ms-flex: 1; ; ms:a:b;flex\t:2".toList

def flexiblePairs : List (Text × Text) :=
  [("-ms-flex".toList, " 1".toList), (" ms".toList, "a:b".toList), ("flex\t".toList, "2".toList)]

theorem distinct_properties_declared_flexible :
    DeclaredAs flexible flexiblePairs ∧ (flexiblePairs.map fun p => trim p.1).Nodup ∧
      declarations flexible = .ok [("msFlex".toList, "1".toList), ("ms".toList, "a:b".toList),
        ("flex".toList, "2".toList)] := by
  have hflex : IsWords "flex".toList := .letter rfl (.letter rfl (.letter rfl (.last rfl)))
  have hvendor : IsRegular "-ms-flex".toList :=
    ⟨.inr ⟨_, rfl, .letter rfl (.hyphen rfl hflex)⟩, by decide⟩
  have hms : IsRegular "ms".toList := ⟨.inl (.letter rfl (.last rfl)), by decide⟩
  have hplain : IsRegular "flex".toList := ⟨.inl hflex, by decide⟩
  have hpairs : ∀ p ∈ flexiblePairs, IsRegular (trim p.1) ∧ allBlank p.2 = false :=
    List.forall_mem_cons.mpr ⟨⟨hvendor, rfl⟩, List.forall_mem_cons.mpr
      ⟨⟨hms, rfl⟩, List.forall_mem_singleton.mpr ⟨hplain, rfl⟩⟩⟩
  have hdeclared : DeclaredAs flexible flexiblePairs := rfl
  have hdistinct : (flexiblePairs.map fun p => trim p.1).Nodup := by decide
  exact ⟨hdeclared, hdistinct, distinct_properties_declared.2 hdeclared hpairs hdistinct⟩

end Stencil.Style
