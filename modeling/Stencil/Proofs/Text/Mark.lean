import Stencil.Text.Basic

/-!
# Finding a mark

`cut?` splits a text at the first occurrence of a mark. The first occurrence stands after `u` if and
only if no occurrence begins inside `u` (`cut?_eq_some_iff`); such an occurrence would lie in `u`
followed by all but the last character of the mark. `splitOn` and `replaceAll` go on after it.
-/

namespace Stencil.Text

theorem isPrefixOf_append_mark {mark u rest : Text} {c : Char}
    (h : mark.isPrefixOf (c :: u ++ mark ++ rest) = true) : mark <+: c :: u ++ mark.dropLast := by
  have hp : mark <+: c :: u ++ mark ++ rest := List.isPrefixOf_iff_prefix.mp h
  have hd : c :: u ++ mark.dropLast <+: c :: u ++ mark ++ rest := by
    rw [List.append_assoc]
    exact (List.prefix_append_right_inj _).mpr ((List.dropLast_prefix mark).trans ⟨rest, rfl⟩)
  refine List.prefix_of_prefix_length_le hp hd ?_
  simp only [List.cons_append, List.length_cons, List.length_append, List.length_dropLast]
  omega

theorem cut?_append {mark u : Text} (hm : mark ≠ []) (h : ¬ mark <:+: u ++ mark.dropLast)
    (rest : Text) : cut? mark (u ++ mark ++ rest) = some (u, rest) := by
  induction u with
  | nil =>
    obtain ⟨m, ms, rfl⟩ := List.exists_cons_of_ne_nil hm
    have hp : (m :: ms).isPrefixOf (m :: ms ++ rest) = true :=
      List.isPrefixOf_iff_prefix.mpr (List.prefix_append _ _)
    simp only [List.nil_append, List.cons_append] at hp ⊢
    rw [cut?, if_pos hp]
    simp
  | cons c u ih =>
    have hp : ¬ mark.isPrefixOf (c :: u ++ mark ++ rest) = true :=
      fun hp => h (isPrefixOf_append_mark hp).isInfix
    have hu : ¬ mark <:+: u ++ mark.dropLast := fun hu => h (List.infix_cons hu)
    simp only [List.cons_append] at hp ⊢
    rw [cut?, if_neg hp, ih hu]

theorem cut?_sound {mark : Text} (hm : mark ≠ []) :
    ∀ {t u rest : Text}, cut? mark t = some (u, rest) →
      t = u ++ mark ++ rest ∧ ¬ mark <:+: u ++ mark.dropLast
  | [], u, rest, h => by
    obtain ⟨m, ms, rfl⟩ := List.exists_cons_of_ne_nil hm
    simp [cut?] at h
  | c :: cs, u, rest, h => by
    rw [cut?] at h
    split at h
    · next hp =>
      obtain ⟨rest', ht⟩ := List.isPrefixOf_iff_prefix.mp hp
      cases h
      rw [← ht]
      refine ⟨by simp, fun hi => ?_⟩
      have hle := hi.length_le
      have hpos := List.length_pos_iff.mpr hm
      simp only [List.nil_append, List.length_dropLast] at hle
      omega
    · next hp =>
      split at h
      · next before after he =>
        cases h
        obtain ⟨hcs, hi⟩ := cut?_sound hm he
        refine ⟨by rw [hcs]; rfl, fun hc => ?_⟩
        rcases List.infix_cons_iff.mp hc with hc | hc
        · refine hp (List.isPrefixOf_iff_prefix.mpr (hc.trans ?_))
          rw [hcs, List.append_assoc]
          exact (List.prefix_append_right_inj (c :: before)).mpr
            ((List.dropLast_prefix mark).trans ⟨rest, rfl⟩)
        · exact hi hc
      · cases h

theorem cut?_eq_some_iff {mark t u rest : Text} (hm : mark ≠ []) :
    cut? mark t = some (u, rest) ↔ t = u ++ mark ++ rest ∧ ¬ mark <:+: u ++ mark.dropLast := by
  refine ⟨cut?_sound hm, ?_⟩
  rintro ⟨rfl, h⟩
  exact cut?_append hm h rest

theorem cut?_eq_none_iff {mark t : Text} (hm : mark ≠ []) : cut? mark t = none ↔ ¬ mark <:+: t := by
  induction t with
  | nil =>
    obtain ⟨m, ms, rfl⟩ := List.exists_cons_of_ne_nil hm
    simp [cut?]
  | cons c cs ih =>
    rw [cut?, List.infix_cons_iff]
    by_cases hp : mark <+: c :: cs
    · rw [if_pos (List.isPrefixOf_iff_prefix.mpr hp)]
      simp [hp]
    · rw [if_neg fun h => hp (List.isPrefixOf_iff_prefix.mp h)]
      simp only [hp, false_or]
      rw [← ih]
      cases cut? mark cs <;> simp

/-- A text without the character comes before the first one. -/
theorem cut?_append_of_not_mem {c : Char} {u : Text} (h : c ∉ u) (t : Text) :
    cut? [c] (u ++ t) = (cut? [c] t).map fun (before, after) => (u ++ before, after) := by
  induction u with
  | nil =>
    cases hcut : cut? [c] t <;> simp [hcut]
  | cons d u ih =>
    rw [List.mem_cons, not_or] at h
    rw [List.cons_append, cut?, if_neg (by simpa [List.isPrefixOf] using h.1), ih h.2]
    cases hcut : cut? [c] t <;> simp

theorem cut?_char {c : Char} {u : Text} (h : c ∉ u) (rest : Text) :
    cut? [c] (u ++ c :: rest) = some (u, rest) := by
  have hcut : cut? [c] (c :: rest) = some ([], rest) := by
    rw [cut?, if_pos (by simp [List.isPrefixOf])]
    rfl
  rw [cut?_append_of_not_mem h, hcut, Option.map_some]
  dsimp only
  rw [List.append_nil]

theorem singleton_infix_of_mem {c : Char} {t : Text} (h : c ∈ t) : [c] <:+: t := by
  obtain ⟨u, v, rfl⟩ := List.append_of_mem h
  exact ⟨u, v, by simp⟩

/-! ## Every mark -/

section

variable {c : Char}

theorem splitOn_of_not_mem {t : Text} (h : c ∉ t) : splitOn c t = [t] := by
  induction t with
  | nil => rfl
  | cons d t ih =>
    rw [List.mem_cons, not_or] at h
    rw [splitOn, if_neg (Ne.symm h.1), ih h.2]

theorem splitOn_ne_nil (t : Text) : splitOn c t ≠ [] := by
  cases t with
  | nil => exact List.cons_ne_nil _ _
  | cons d t =>
    rw [splitOn]
    split
    · exact List.cons_ne_nil _ _
    · split <;> exact List.cons_ne_nil _ _

/-- The pieces of a text that does not begin with the separator. -/
theorem splitOn_cons_of_ne {d : Char} (h : d ≠ c) {t p : Text} {ps : List Text}
    (ht : splitOn c t = p :: ps) : splitOn c (d :: t) = (d :: p) :: ps := by
  rw [splitOn, if_neg h, ht]

theorem splitOn_append_mark (u v : Text) :
    splitOn c (u ++ c :: v) = splitOn c u ++ splitOn c v := by
  induction u with
  | nil =>
    show splitOn c (c :: v) = [] :: splitOn c v
    rw [splitOn, if_pos rfl]
  | cons d u ih =>
    by_cases hd : d = c
    · rw [List.cons_append, splitOn, if_pos hd, ih, splitOn, if_pos hd, List.cons_append]
    · obtain ⟨p, ps, hu⟩ := List.exists_cons_of_ne_nil (splitOn_ne_nil (c := c) u)
      rw [hu, List.cons_append] at ih
      rw [List.cons_append, splitOn_cons_of_ne hd ih, splitOn_cons_of_ne hd hu, List.cons_append]

/-- A text without the separator only lengthens the first piece. -/
theorem splitOn_append {u t p : Text} {ps : List Text} (h : c ∉ u) (ht : splitOn c t = p :: ps) :
    splitOn c (u ++ t) = (u ++ p) :: ps := by
  induction u with
  | nil => exact ht
  | cons d u ih =>
    rw [List.mem_cons, not_or] at h
    exact splitOn_cons_of_ne (Ne.symm h.1) (ih h.2)

theorem not_mem_of_mem_splitOn {t p : Text} (h : p ∈ splitOn c t) : c ∉ p := by
  induction t generalizing p with
  | nil =>
    rw [List.mem_singleton.mp h]
    exact List.not_mem_nil
  | cons d t ih =>
    by_cases hd : d = c
    · rw [splitOn, if_pos hd, List.mem_cons] at h
      rcases h with rfl | h
      · exact List.not_mem_nil
      · exact ih h
    · obtain ⟨q, qs, ht⟩ := List.exists_cons_of_ne_nil (splitOn_ne_nil (c := c) t)
      rw [splitOn_cons_of_ne hd ht, List.mem_cons] at h
      rcases h with rfl | h
      · rw [List.mem_cons, not_or]
        exact ⟨Ne.symm hd, ih (ht ▸ List.mem_cons_self)⟩
      · exact ih (ht ▸ List.mem_cons_of_mem q h)

end

theorem replaceAll_cons_of_not_prefix {mark : Text} {c : Char} {cs : Text}
    (h : mark.isPrefixOf (c :: cs) = false) (new : Text) :
    replaceAll mark new (c :: cs) = c :: replaceAll mark new cs := by
  rw [replaceAll, replaceFrom, h, if_neg Bool.false_ne_true, replaceAll]

theorem replaceFrom_append (mark new : Text) (u t : Text) :
    replaceFrom mark new u.length (u ++ t) = replaceAll mark new t := by
  induction u with
  | nil => rfl
  | cons c u ih => exact ih

theorem replaceAll_append {mark : Text} (hm : mark ≠ []) (new t : Text) :
    replaceAll mark new (mark ++ t) = new ++ replaceAll mark new t := by
  obtain ⟨c, cs, rfl⟩ := List.exists_cons_of_ne_nil hm
  have hp : (c :: cs).isPrefixOf (c :: (cs ++ t)) = true :=
    List.isPrefixOf_iff_prefix.mpr ⟨t, rfl⟩
  rw [List.cons_append, replaceAll, replaceFrom, if_pos hp, List.length_cons, Nat.add_sub_cancel,
    replaceFrom_append]

/-- A mark of one character is replaced wherever the character stands. -/
theorem replaceAll_singleton (c : Char) (new t : Text) :
    replaceAll [c] new t = t.flatMap fun d => if d = c then new else [d] := by
  induction t with
  | nil => rfl
  | cons d t ih =>
    rw [List.flatMap_cons, ← ih]
    by_cases hd : d = c
    · rw [if_pos hd, hd]
      exact replaceAll_append (List.cons_ne_nil c []) new t
    · have hp : [c].isPrefixOf (d :: t) = false := by simpa [List.isPrefixOf] using Ne.symm hd
      rw [if_neg hd, replaceAll_cons_of_not_prefix hp]
      rfl

/-! ## Doubled characters -/

theorem isPrefixOf_pair {x : Char} {t : Text} :
    [x, x].isPrefixOf t = true ↔ ∃ r, t = x :: x :: r := by
  rw [List.isPrefixOf_iff_prefix]
  constructor
  · rintro ⟨r, rfl⟩
    exact ⟨r, rfl⟩
  · rintro ⟨r, rfl⟩
    exact ⟨r, rfl⟩

theorem isPrefixOf_pair_append {x : Char} {v : Text} (hv : v.head? ≠ some x) (u : Text) :
    [x, x].isPrefixOf (u ++ v) = [x, x].isPrefixOf u := by
  have hhead : ∀ y w, v = y :: w → (x == y) = false := by
    rintro y w rfl
    simpa using Ne.symm hv
  rcases u with _ | ⟨a, _ | ⟨b, u⟩⟩
  · rcases v with _ | ⟨y, v⟩
    · rfl
    · simp [List.isPrefixOf, hhead y v rfl]
  · rcases v with _ | ⟨y, v⟩
    · rfl
    · simp [List.isPrefixOf, hhead y v rfl]
  · simp [List.isPrefixOf]

/-- A doubled character in two texts with another character between them lies in one of them. -/
theorem double_infix_append_cons {a x : Char} (hx : x ≠ a) {u v : Text} :
    [a, a] <:+: u ++ x :: v ↔ [a, a] <:+: u ∨ [a, a] <:+: v := by
  rw [List.infix_append_iff_ne_nil, List.infix_cons_iff]
  have hp : ∀ {l : Text}, l ≠ [] → (∀ c ∈ l, c = a) → ¬ l <+: x :: v := by
    intro l hl ha h
    obtain ⟨c, l, rfl⟩ := List.exists_cons_of_ne_nil hl
    obtain ⟨t, ht⟩ := h
    injection ht with hc
    exact hx (hc ▸ ha c (by simp))
  constructor
  · rintro (h | (h | h) | ⟨l₁, l₂, _, h₂, he, _, h⟩)
    · exact .inl h
    · exact absurd h (hp (by simp) (by simp))
    · exact .inr h
    · refine absurd h (hp h₂ fun c hc => ?_)
      have : c ∈ [a, a] := he ▸ List.mem_append_right _ hc
      simpa using this
  · rintro (h | h)
    · exact .inl h
    · exact .inr (.inl (.inr h))

theorem double_infix_cons {a x : Char} (hx : x ≠ a) {v : Text} :
    [a, a] <:+: x :: v ↔ [a, a] <:+: v := by
  have h := double_infix_append_cons hx (u := []) (v := v)
  simpa using h

theorem not_double_infix_of_not_mem {a : Char} {v : Text} (h : a ∉ v) : ¬ [a, a] <:+: v :=
  fun hi => h (hi.subset (by simp))

/-- A doubled character does not begin in a text without one that ends in something else. -/
theorem double_infix_append {a : Char} {u v : Text} (hu : u.getLast? ≠ some a) :
    [a, a] <:+: u ++ v ↔ [a, a] <:+: u ∨ [a, a] <:+: v := by
  rcases List.eq_nil_or_concat u with rfl | ⟨u, x, rfl⟩
  · simp
  · have hx : x ≠ a := fun h => hu (by simp [h])
    rw [List.concat_eq_append, List.append_assoc, List.singleton_append,
      double_infix_append_cons hx, double_infix_append_cons hx]
    simp

theorem not_double_infix_append {a : Char} {u v : Text} (hu : ¬ [a, a] <:+: u)
    (hl : u.getLast? ≠ some a) (hv : ¬ [a, a] <:+: v) : ¬ [a, a] <:+: u ++ v := by
  rw [double_infix_append hl]
  exact fun h => h.elim hu hv

/-- A text without the end of a comment has none either once two hyphens follow it. -/
theorem not_infix_commentEnd {v : Text} (h : ¬ ['-', '-', '>'] <:+: v) :
    ¬ ['-', '-', '>'] <:+: v ++ ['-', '-'] := by
  rw [List.infix_append_iff_ne_nil]
  rintro (hv | hv | ⟨l₁, l₂, _, h₂, he, _, t, hp⟩)
  · exact h hv
  · exact absurd hv.length_le (by simp)
  · -- The part of the mark in the two hyphens would end in the angle bracket.
    have hl : l₂.getLast h₂ = '>' := by
      have hl := congrArg List.getLast? he
      rw [List.getLast?_append, List.getLast?_eq_some_getLast h₂] at hl
      simpa using hl.symm
    have hm : '>' ∈ ['-', '-'] := by
      rw [← hp, ← hl]
      exact List.mem_append_left _ (List.getLast_mem h₂)
    simp at hm

end Stencil.Text
