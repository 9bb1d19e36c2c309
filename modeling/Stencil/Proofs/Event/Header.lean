import Stencil.Event.Directive
import Stencil.Proofs.Text.Blank

/-!
# Iteration headers

`Binds v b` says that the text `v` declares the variables `b`: a colon and a name, once or twice,
with blanks anywhere between. `Directive.header?` takes the shortest beginning after which such a
text stands (`header?_eq_some_iff`). An iterable is `Whole` if no part of it can be read as a
variable: then the written header of an iteration is read as it was meant (`iteration?_whole`).
-/

namespace Stencil.Directive

open Text

/-- The name of a variable. -/
def IsName (n : Text) : Prop := n ≠ [] ∧ ∀ c ∈ n, isNameChar c = true

/-- A text that declares variables. -/
inductive Binds : Text → Binder → Prop where
  | item {a b c n : Text} (ha : allBlank a = true) (hb : allBlank b = true) (hn : IsName n)
      (hc : allBlank c = true) : Binds (a ++ ':' :: (b ++ n ++ c)) ⟨n, none⟩
  | index {a b c d e n m : Text} (ha : allBlank a = true) (hb : allBlank b = true) (hn : IsName n)
      (hc : allBlank c = true) (hd : allBlank d = true) (hm : IsName m) (he : allBlank e = true) :
      Binds (a ++ ':' :: (b ++ n ++ c ++ ':' :: (d ++ m ++ e))) ⟨n, some m⟩

/-- No item can be split off the end of the text. -/
def Whole (t : Text) : Prop :=
  ∀ front a b n : Text, front ≠ [] → allBlank a = true → allBlank b = true → IsName n →
    t ≠ front ++ a ++ ':' :: (b ++ n)

/-! ## Characters -/

theorem isBlank_colon : isBlank ':' = false := by decide

theorem isNameChar_colon : isNameChar ':' = false := by decide

theorem isBlank_of_isNameChar {c : Char} (h : isNameChar c = true) : isBlank c = false := by
  rcases Bool.or_eq_true_iff.mp h with h | h
  · exact isBlank_of_isWord h
  · rw [of_decide_eq_true h]
    decide

theorem IsName.getLast {n : Text} (h : IsName n) : ∀ c ∈ n.getLast?, isBlank c = false :=
  fun c hc => isBlank_of_isNameChar (h.2 c (List.mem_of_getLast? hc))

theorem colon_not_mem_blank {a : Text} (h : allBlank a = true) : ':' ∉ a := by
  intro hm
  have hb := isBlank_of_mem h hm
  rw [isBlank_colon] at hb
  cases hb

theorem IsName.colon_not_mem {n : Text} (h : IsName n) : ':' ∉ n := by
  intro hm
  have hc := h.2 _ hm
  rw [isNameChar_colon] at hc
  cases hc

/-- The first colon of a text is where it is. -/
theorem split_colon {a a' x x' : Text} (ha : ':' ∉ a) (ha' : ':' ∉ a')
    (h : a ++ ':' :: x = a' ++ ':' :: x') : a = a' ∧ x = x' := by
  rcases List.append_eq_append_iff.mp h with ⟨y, rfl, hy⟩ | ⟨y, rfl, hy⟩
  · cases y with
    | nil => simpa using hy
    | cons c y =>
      injection hy with hc _
      exact absurd (hc ▸ List.mem_append_right a List.mem_cons_self) ha'
  · cases y with
    | nil => simpa using hy.symm
    | cons c y =>
      injection hy with hc _
      exact absurd (hc ▸ List.mem_append_right a' List.mem_cons_self) ha

/-! ## Variables -/

theorem head_blank_append {c r : Text} (hc : allBlank c = true)
    (hr : ∀ x ∈ r.head?, isNameChar x = false) : ∀ x ∈ (c ++ r).head?, isNameChar x = false := by
  cases c with
  | nil => exact hr
  | cons y c =>
    rintro x hx
    cases hx
    cases hn : isNameChar y with
    | false => rfl
    | true =>
      have hb := isBlank_of_mem hc (c := y) (by simp)
      rw [isBlank_of_isNameChar hn] at hb
      cases hb

/-- A name between blanks is found, if neither a blank nor a character of a name follows. -/
theorem name?_append {a n c r : Text} (ha : allBlank a = true) (hn : IsName n)
    (hc : allBlank c = true) (hr : ∀ x ∈ r.head?, isBlank x = false ∧ isNameChar x = false) :
    name? (a ++ n ++ c ++ r) = some (n, r) := by
  have hstart : trimStart (a ++ n ++ c ++ r) = n ++ (c ++ r) := by
    rw [List.append_assoc, List.append_assoc, trimStart_blank_append ha, trimStart_of_head]
    intro x hx
    obtain ⟨y, n, rfl⟩ := List.exists_cons_of_ne_nil hn.1
    cases hx
    exact isBlank_of_isNameChar (hn.2 x (by simp))
  have hhead := head_blank_append hc fun x hx => (hr x hx).2
  have hend : trimStart (c ++ r) = r := by
    rw [trimStart_blank_append hc, trimStart_of_head fun x hx => (hr x hx).1]
  simp only [name?, hstart, takeWhile_run hn.2 hhead, dropWhile_run hn.2 hhead, hend]
  rw [if_neg]
  rw [List.isEmpty_iff]
  exact hn.1

theorem name?_sound {t n r : Text} (h : name? t = some (n, r)) :
    IsName n ∧ ∃ a c, allBlank a = true ∧ allBlank c = true ∧ t = a ++ n ++ c ++ r := by
  simp only [name?] at h
  split at h
  · cases h
  · next hne =>
    obtain ⟨a, ha, ht⟩ := exists_eq_append_trimStart t
    obtain ⟨c, hc, hd⟩ := exists_eq_append_trimStart ((trimStart t).dropWhile isNameChar)
    injection h with h
    injection h with hn hr
    subst hn hr
    refine ⟨⟨?_, fun x hx => List.all_eq_true.mp List.all_takeWhile x hx⟩, a, c, ha, hc, ?_⟩
    · rwa [List.isEmpty_iff] at hne
    · rw [List.append_assoc, ← hd, List.append_assoc, List.takeWhile_append_dropWhile, ← ht]

theorem binder?_of_binds {t : Text} {b : Binder} (h : Binds t b) : binder? t = some b := by
  have hcolon : ∀ {a : Text}, allBlank a = true → ∀ x, trimStart (a ++ ':' :: x) = ':' :: x := by
    intro a ha x
    rw [trimStart_blank_append ha, trimStart_cons_of_not_blank isBlank_colon]
  cases h with
  | item ha hb hn hc =>
    rw [binder?, hcolon ha]
    have hname := name?_append (r := []) hb hn hc (by simp)
    rw [List.append_nil] at hname
    simp only [hname]
  | @index a b c d e n m ha hb hn hc hd hm he =>
    rw [binder?, hcolon ha]
    have hitem := name?_append (r := ':' :: (d ++ m ++ e)) hb hn hc (by
      rintro x hx
      cases hx
      exact ⟨isBlank_colon, isNameChar_colon⟩)
    have hindex := name?_append (r := []) hd hm he (by simp)
    rw [List.append_nil] at hindex
    simp only [hitem, hindex]

theorem binds_of_binder? {t : Text} {b : Binder} (h : binder? t = some b) : Binds t b := by
  obtain ⟨a, ha, ht⟩ := exists_eq_append_trimStart t
  rw [binder?] at h
  split at h
  · next u hu =>
    rw [hu] at ht
    split at h
    · next n hn =>
      cases h
      obtain ⟨hname, a', c, ha', hc, rfl⟩ := name?_sound hn
      rw [ht, List.append_nil]
      exact .item ha ha' hname hc
    · next n v hn =>
      obtain ⟨hname, a', c, ha', hc, rfl⟩ := name?_sound hn
      split at h
      · next m hm =>
        cases h
        obtain ⟨hmname, d, e, hd, he, rfl⟩ := name?_sound hm
        rw [ht, List.append_nil]
        exact .index ha ha' hname hc hd hmname he
      · cases h
    · cases h
  · cases h

theorem binder?_eq_some_iff {t : Text} {b : Binder} : binder? t = some b ↔ Binds t b :=
  ⟨binds_of_binder?, binder?_of_binds⟩

theorem binder?_blank_append {a : Text} (ha : allBlank a = true) (t : Text) :
    binder? (a ++ t) = binder? t := by
  rw [binder?, trimStart_blank_append ha, binder?]

theorem Binds.colon_mem {t : Text} {b : Binder} (h : Binds t b) : ':' ∈ t := by
  cases h <;> simp

theorem Binds.isName {t : Text} {b : Binder} (h : Binds t b) :
    IsName b.item ∧ ∀ i ∈ b.index, IsName i := by
  cases h with
  | item _ _ hn _ => exact ⟨hn, by simp⟩
  | index _ _ hn _ _ hm _ => exact ⟨hn, by simpa using hm⟩

/-! ## Headers -/

theorem header?_append {u v : Text} {b : Binder} (hne : u ≠ []) (hv : Binds v b)
    (hshort : ∀ u' v' : Text, u ++ v = u' ++ v' → u' ≠ [] → u'.length < u.length → ∀ b', ¬ Binds v' b') :
    header? (u ++ v) = some (u, b) := by
  induction u with
  | nil => exact absurd rfl hne
  | cons c u ih =>
    rw [List.cons_append, header?]
    cases u with
    | nil => rw [List.nil_append, binder?_of_binds hv]
    | cons d u =>
      have hnone : binder? (d :: u ++ v) = none := by
        cases hb : binder? (d :: u ++ v) with
        | none => rfl
        | some b' =>
          exact absurd (binds_of_binder? hb)
            (hshort [c] (d :: u ++ v) rfl (by simp) (by simp) b')
      rw [hnone, ih (by simp)]
      intro u' v' he hne' hlt b'
      refine hshort (c :: u') v' ?_ (by simp) ?_ b'
      · rw [List.cons_append, he, List.cons_append]
      · simpa using hlt

theorem header?_sound : ∀ {t u : Text} {b : Binder}, header? t = some (u, b) →
    u ≠ [] ∧ ∃ v, t = u ++ v ∧ Binds v b ∧
      ∀ u' v' : Text, t = u' ++ v' → u' ≠ [] → u'.length < u.length → ∀ b', ¬ Binds v' b'
  | [], _, _, h => by cases h
  | c :: cs, u, b, h => by
    rw [header?] at h
    split at h
    · next b' hb =>
      cases h
      refine ⟨by simp, cs, rfl, binds_of_binder? hb, fun u' v' _ hne hlt => ?_⟩
      have hpos := List.length_pos_iff.mpr hne
      simp only [List.length_cons, List.length_nil] at hlt
      omega
    · next hnone =>
      split at h
      · next u₁ b₁ hh =>
        cases h
        obtain ⟨hne, v, rfl, hv, hshort⟩ := header?_sound hh
        refine ⟨by simp, v, rfl, hv, fun u' v' he hne' hlt b' hb' => ?_⟩
        obtain ⟨x, u', rfl⟩ := List.exists_cons_of_ne_nil hne'
        injection he with hx he
        cases u' with
        | nil =>
          have hsome : binder? (u₁ ++ v) = some b' := by rw [he]; exact binder?_of_binds hb'
          rw [hsome] at hnone
          cases hnone
        | cons y u' =>
          exact hshort (y :: u') v' he (by simp) (by simpa using hlt) b' hb'
      · cases h

theorem header?_eq_some_iff {t u : Text} {b : Binder} :
    header? t = some (u, b) ↔ u ≠ [] ∧ ∃ v, t = u ++ v ∧ Binds v b ∧
      ∀ u' v' : Text, t = u' ++ v' → u' ≠ [] → u'.length < u.length → ∀ b', ¬ Binds v' b' := by
  refine ⟨header?_sound, ?_⟩
  rintro ⟨hne, v, rfl, hv, hshort⟩
  exact header?_append hne hv hshort

theorem header?_ne_none {u v : Text} {b : Binder} (hne : u ≠ []) (hv : Binds v b) :
    header? (u ++ v) ≠ none := by
  induction u with
  | nil => exact absurd rfl hne
  | cons c u ih =>
    rw [List.cons_append, header?]
    cases hb : binder? (u ++ v) with
    | some b' => simp
    | none =>
      have hu : u ≠ [] := by
        rintro rfl
        rw [List.nil_append, binder?_of_binds hv] at hb
        cases hb
      cases hh : header? (u ++ v) with
      | some r => simp
      | none => exact absurd hh (ih hu)

/-- An index follows an item only if the item is not taken for the iterable. -/
theorem index_eq_none_of_header? {t : Text} {b : Binder} (hh : header? t = none)
    (hb : Binds t b) : b.index = none := by
  cases hb with
  | item => rfl
  | @index a b c d e n m ha hb hn hc hd hm he =>
    have hv : Binds ([] ++ ':' :: (d ++ m ++ e)) ⟨m, none⟩ := .item rfl hd hm he
    refine absurd ?_ (header?_ne_none (u := a ++ ':' :: (b ++ n ++ c)) (by simp) hv)
    rw [← hh]
    simp

/-- The iterable that is found has no blank at its ends, if none stands in front of the header. -/
theorem header?_trimmed {t u : Text} {b : Binder} (h : header? t = some (u, b))
    (ht : ∀ c ∈ t.head?, isBlank c = false) : Trimmed u := by
  obtain ⟨hne, v, rfl, hv, hshort⟩ := header?_sound h
  obtain ⟨c, u, rfl⟩ := List.exists_cons_of_ne_nil hne
  refine ⟨fun x hx => ht x hx, fun x hx => ?_⟩
  cases hb : isBlank x with
  | false => rfl
  | true =>
    -- A blank at the end belongs to what declares the variables.
    obtain ⟨u', hu'⟩ := List.getLast?_eq_some_iff.mp hx
    cases u' with
    | nil =>
      injection hu' with hc _
      rw [← hc, ht c rfl] at hb
      cases hb
    | cons y u' =>
      refine absurd (binds_of_binder? ?_) (hshort (y :: u') ([x] ++ v) ?_ (by simp) ?_ b)
      · rw [binder?_blank_append (by simp [hb]), binder?_of_binds hv]
      · rw [hu', List.append_assoc]
      · rw [hu']
        simp

/-- The iterable that is found is whole, if no index follows the item. -/
theorem header?_whole {t u n : Text} (h : header? t = some (u, ⟨n, none⟩)) : Whole u := by
  obtain ⟨hne, v, rfl, hv, hshort⟩ := header?_sound h
  rintro front a b m hf ha hb hm rfl
  cases hv with
  | @item c d e _ hc hd hn he =>
    refine hshort front (a ++ ':' :: (b ++ m ++ c ++ ':' :: (d ++ n ++ e))) ?_ hf ?_ _
      (.index ha hb hm hc hd hn he)
    · simp
    · simp only [List.length_append, List.length_cons]
      omega

/-! ## Written headers -/

/-- What is written after the iterable. -/
def bindingText (b : Binder) : Text :=
  let index :=
    match b.namedIndex? with
    | some index => ':' :: index
    | none => []
  " :".toList ++ b.item ++ index ++ [' ']

theorem bindingText_item (n : Text) : bindingText ⟨n, none⟩ = ' ' :: ':' :: (n ++ [' ']) := by
  simp [bindingText, Binder.namedIndex?]

theorem bindingText_index {n m : Text} (hm : m ≠ []) :
    bindingText ⟨n, some m⟩ = ' ' :: ':' :: (n ++ ':' :: (m ++ [' '])) := by
  simp [bindingText, Binder.namedIndex?, Option.filter, hm]

theorem binds_bindingText {b : Binder} (hi : IsName b.item) (hx : ∀ i ∈ b.index, IsName i) :
    Binds (bindingText b) b := by
  have hs : allBlank [' '] = true := by decide
  obtain ⟨n, _ | m⟩ := b
  · rw [bindingText_item]
    exact .item (a := [' ']) (b := []) hs rfl hi hs
  · have hm : IsName m := hx m rfl
    rw [bindingText_index hm.1]
    have h := Binds.index (a := [' ']) (b := []) (c := []) (d := []) hs rfl hi rfl rfl hm hs
    simpa using h

/-- What stands on either side of the first colon of a text that declares variables. -/
theorem Binds.split {x y : Text} {b : Binder} (h : Binds (x ++ ':' :: y) b) (hx : ':' ∉ x) :
    allBlank x = true ∧
      ((∃ p n q, allBlank p = true ∧ IsName n ∧ allBlank q = true ∧ y = p ++ n ++ q) ∨
        ∃ p n q d m e, allBlank p = true ∧ IsName n ∧ allBlank q = true ∧ allBlank d = true ∧
          IsName m ∧ allBlank e = true ∧ y = p ++ n ++ q ++ ':' :: (d ++ m ++ e)) := by
  generalize ht : x ++ ':' :: y = t at h
  cases h with
  | item ha hb hn hc =>
    obtain ⟨rfl, rfl⟩ := split_colon hx (colon_not_mem_blank ha) ht
    exact ⟨ha, .inl ⟨_, _, _, hb, hn, hc, rfl⟩⟩
  | index ha hb hn hc hd hm he =>
    obtain ⟨rfl, rfl⟩ := split_colon hx (colon_not_mem_blank ha) ht
    exact ⟨ha, .inr ⟨_, _, _, _, _, _, hb, hn, hc, hd, hm, he, rfl⟩⟩

theorem colon_not_mem_name {p n q : Text} (hp : allBlank p = true) (hn : IsName n)
    (hq : allBlank q = true) : ':' ∉ p ++ n ++ q := by
  simp only [List.mem_append, not_or]
  exact ⟨⟨colon_not_mem_blank hp, hn.colon_not_mem⟩, colon_not_mem_blank hq⟩

/-- Blanks around a name that end where a visible text and a space end. -/
theorem eq_of_name_append_blank {p n q y : Text} (hn : IsName n) (hq : allBlank q = true)
    (hl : ∀ c ∈ y.getLast?, isBlank c = false) (h : p ++ n ++ q = y ++ [' ']) : y = p ++ n := by
  have hpn : p ++ n ≠ [] := by simp [hn.1]
  have hy : y ≠ [] := by
    rintro rfl
    obtain ⟨c, hc⟩ := List.exists_mem_of_ne_nil n hn.1
    have hspace : c ∈ [] ++ [' '] := by rw [← h]; simp [hc]
    have hc := isBlank_of_isNameChar (hn.2 c hc)
    rw [List.mem_singleton.mp hspace] at hc
    exact absurd hc (by decide)
  have hlast : ∀ c ∈ (p ++ n).getLast?, isBlank c = false := by
    intro c hc
    rw [List.getLast?_append, List.getLast?_eq_some_getLast hn.1] at hc
    exact hn.getLast c (by rw [List.getLast?_eq_some_getLast hn.1]; simpa using hc)
  obtain ⟨z, hz, hs⟩ := exists_of_append_eq_append_blank (by decide) hpn hlast h
  obtain ⟨z', hz', hs'⟩ := exists_of_append_eq_append_blank hq hy hl h.symm
  have hlen : z.length = 0 := by
    have h₁ := congrArg List.length hz
    have h₂ := congrArg List.length hz'
    simp only [List.length_append] at h₁ h₂
    omega
  rw [hz, List.length_eq_zero_iff.mp hlen, List.append_nil]

/-- Only blanks stand before the first colon. -/
theorem not_binds_of_visible {w z : Text} {b : Binder} (hne : w ≠ [])
    (hl : ∀ c ∈ w.getLast?, isBlank c = false) (hc : ':' ∉ w) :
    ¬ Binds (w ++ ' ' :: ':' :: z) b := by
  intro h
  rw [List.append_cons] at h
  obtain ⟨hb, _⟩ := h.split (by simp [hc])
  rw [allBlank_append] at hb
  have hlast := hl (w.getLast hne) (List.getLast?_eq_some_getLast hne)
  rw [isBlank_of_mem (Bool.and_eq_true_iff.mp hb).1 (List.getLast_mem hne)] at hlast
  cases hlast

/-- Variables cannot be read any earlier than where they are written, if no item can be split off
what stands before them. -/
theorem not_binds_append_bindingText {w : Text} {b b' : Binder} (hne : w ≠ [])
    (hl : ∀ c ∈ w.getLast?, isBlank c = false) (hi : IsName b.item)
    (hx : ∀ i ∈ b.index, IsName i)
    (hw : b.index = none → ∀ p q n : Text, allBlank p = true → allBlank q = true → IsName n →
      w ≠ p ++ ':' :: (q ++ n)) : ¬ Binds (w ++ bindingText b) b' := by
  intro h
  obtain ⟨z, hz⟩ : ∃ z, bindingText b = ' ' :: ':' :: z := by simp [bindingText]
  by_cases hc : ':' ∈ w
  · obtain ⟨x, y, rfl, hx'⟩ := List.eq_append_cons_of_mem hc
    rw [List.append_assoc, List.cons_append] at h
    obtain ⟨hbx, ⟨p, n, q, hp, hn, hq, he⟩ | ⟨p, n, q, d, m, e, hp, hn, hq, hd, hm, he, hy⟩⟩ :=
      h.split hx'
    · refine colon_not_mem_name hp hn hq ?_
      rw [← he, hz]
      simp
    by_cases hcy : ':' ∈ y
    · obtain ⟨x₂, y₂, rfl, hx₂⟩ := List.eq_append_cons_of_mem hcy
      rw [List.append_assoc, List.cons_append] at hy
      obtain ⟨_, hy₂⟩ := split_colon hx₂ (colon_not_mem_name hp hn hq) hy
      refine colon_not_mem_name hd hm he ?_
      rw [← hy₂, hz]
      simp
    · have hsplit : (y ++ [' ']) ++ ':' :: z = p ++ n ++ q ++ ':' :: (d ++ m ++ e) := by
        rw [← hy, hz]
        simp
      obtain ⟨hy', hz'⟩ := split_colon (by simp [hcy]) (colon_not_mem_name hp hn hq) hsplit
      have hindex : b.index = none := by
        obtain ⟨n', _ | m'⟩ := b
        · rfl
        · rw [bindingText_index (hx m' rfl).1] at hz
          refine absurd ?_ (colon_not_mem_name hd hm he)
          rw [← hz', ← (List.cons.inj (List.cons.inj hz).2).2]
          simp
      have hyl : ∀ c ∈ y.getLast?, isBlank c = false := by
        intro c hc'
        refine hl c ?_
        rw [List.getLast?_append, List.getLast?_cons, Option.mem_def.mp hc']
        rfl
      have hyeq := eq_of_name_append_blank hn hq hyl hy'.symm
      exact hw hindex x p n hbx hp hn (by rw [hyeq])
  · rw [hz] at h
    exact not_binds_of_visible hne hl hc h

/-- The written header of an iteration is read as it was meant. -/
theorem iteration?_whole {iterable : Text} {b : Binder} (hne : iterable ≠ [])
    (ht : Trimmed iterable) (hi : IsName b.item) (hx : ∀ i ∈ b.index, IsName i)
    (hw : b.index = none → Whole iterable) :
    iteration? (' ' :: iterable ++ bindingText b) = some (.openIterator iterable b) := by
  have hh : header? (iterable ++ bindingText b) = some (iterable, b) := by
    refine header?_append hne (binds_bindingText hi hx) fun u v he hu hlt b' => ?_
    rcases List.append_eq_append_iff.mp he with ⟨w, rfl, _⟩ | ⟨w, rfl, rfl⟩
    · simp only [List.length_append] at hlt
      omega
    · have hwne : w ≠ [] := by
        rintro rfl
        simp at hlt
      refine not_binds_append_bindingText hwne (fun c hc => ht.2 c ?_) hi hx ?_
      · rw [List.getLast?_append, Option.mem_def.mp hc, Option.some_or]
        rfl
      · intro hnone p q n hp hq hn hweq
        exact hw hnone u p q n hu hp hq hn (by rw [hweq, List.append_assoc])
  obtain ⟨c, cs, rfl⟩ := List.exists_cons_of_ne_nil hne
  have hstart : trimStart (' ' :: (c :: cs) ++ bindingText b) = c :: (cs ++ bindingText b) := by
    rw [List.cons_append, ← List.singleton_append, trimStart_blank_append (by decide),
      List.cons_append, trimStart_cons_of_not_blank (ht.1 c rfl)]
  rw [iteration?, hstart]
  rw [List.cons_append] at hh
  simp only [hh]

/-- A blank iterable is read as a space. -/
theorem iteration?_blank {x : Char} (hx : isBlank x = true) {n : Text} (hn : IsName n) :
    iteration? (' ' :: [x] ++ bindingText ⟨n, none⟩) = some (.openIterator [' '] ⟨n, none⟩) := by
  have hblank : allBlank [' ', x, ' '] = true := by simp [hx, show isBlank ' ' = true by decide]
  have ht : ' ' :: [x] ++ bindingText ⟨n, none⟩ = [' ', x, ' '] ++ ':' :: (n ++ [' ']) := by
    rw [bindingText_item]
    rfl
  have hnone : header? (':' :: (n ++ [' '])) = none := by
    cases hh : header? (':' :: (n ++ [' '])) with
    | none => rfl
    | some r =>
      obtain ⟨hne, v, he, hv, _⟩ := header?_sound hh
      obtain ⟨c, u, hu⟩ := List.exists_cons_of_ne_nil hne
      rw [hu, List.cons_append] at he
      have hmem : ':' ∈ n ++ [' '] := by
        rw [(List.cons.inj he).2]
        exact List.mem_append_right u hv.colon_mem
      exact absurd hmem (by simp [hn.colon_not_mem])
  have hbinder : binder? (':' :: (n ++ [' '])) = some ⟨n, none⟩ := by
    have h := Binds.item (a := []) (b := []) (c := [' ']) rfl rfl hn (by decide)
    exact binder?_of_binds (by simpa using h)
  have hlast : (([' ', x, ' '] ++ ':' :: (n ++ [' '])).takeWhile isBlank).getLast? = some ' ' := by
    rw [takeWhile_run (fun c hc => isBlank_of_mem hblank hc) (by simpa using isBlank_colon)]
    rfl
  rw [ht, iteration?, trimStart_blank_append hblank, trimStart_cons_of_not_blank isBlank_colon]
  simp only [hnone, hlast, hbinder]

end Stencil.Directive
