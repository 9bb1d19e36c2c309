import Stencil.Text.Blank
import Stencil.Text.Word

/-!
# Trimming

What is left of a text without the blanks at its ends. A text is trimmed if and only if neither its
first nor its last character is blank (`trim_eq_self_iff`). No character of a word is blank.
-/

namespace Stencil.Text

/-- Neither the first nor the last character is blank. -/
def Trimmed (t : Text) : Prop :=
  (∀ c ∈ t.head?, isBlank c = false) ∧ ∀ c ∈ t.getLast?, isBlank c = false

@[simp] theorem allBlank_nil : allBlank [] = true := rfl

@[simp] theorem allBlank_cons (c : Char) (t : Text) :
    allBlank (c :: t) = (isBlank c && allBlank t) := rfl

theorem allBlank_append (a b : Text) : allBlank (a ++ b) = (allBlank a && allBlank b) :=
  List.all_append

theorem allBlank_run {c : Char} (hc : isBlank c = true) (cs : Text) :
    allBlank (c :: cs.takeWhile isBlank) = true := by
  rw [allBlank_cons, hc]
  exact List.all_takeWhile

theorem isBlank_of_mem {t : Text} (h : allBlank t = true) {c : Char} (hc : c ∈ t) :
    isBlank c = true := List.all_eq_true.mp h c hc

/-! ## The beginning -/

theorem not_mem_of_allBlank {c : Char} {t : Text} (hc : isBlank c = false) (h : allBlank t = true) :
    c ∉ t := by
  intro hmem
  rw [isBlank_of_mem h hmem] at hc
  cases hc

theorem trimStart_blank_append {a : Text} (h : allBlank a = true) (t : Text) :
    trimStart (a ++ t) = trimStart t :=
  List.dropWhile_append_of_pos fun _ hc => isBlank_of_mem h hc

theorem trimStart_cons_of_not_blank {c : Char} (h : isBlank c = false) (t : Text) :
    trimStart (c :: t) = c :: t := by
  simp [trimStart, h]

theorem trimStart_of_head {t : Text} (h : ∀ c ∈ t.head?, isBlank c = false) : trimStart t = t := by
  cases t with
  | nil => rfl
  | cons c t => exact trimStart_cons_of_not_blank (h c rfl) t

theorem head_trimStart (t : Text) : ∀ c ∈ (trimStart t).head?, isBlank c = false := by
  intro c hc
  have h := List.head?_dropWhile_not isBlank t
  rw [show (t.dropWhile isBlank).head? = some c from hc] at h
  exact h

theorem exists_eq_append_trimStart (t : Text) : ∃ a, allBlank a = true ∧ t = a ++ trimStart t :=
  ⟨t.takeWhile isBlank, List.all_takeWhile, List.takeWhile_append_dropWhile.symm⟩

theorem trimStart_eq_nil_iff {t : Text} : trimStart t = [] ↔ allBlank t = true := by
  induction t with
  | nil => simp [trimStart]
  | cons c t ih =>
    cases h : isBlank c with
    | true => simpa [trimStart, h] using ih
    | false => simp [trimStart, h]

theorem trimStart_append_of_not_blank {t : Text} (h : allBlank t = false) (b : Text) :
    trimStart (t ++ b) = trimStart t ++ b := by
  rw [trimStart, List.dropWhile_append, if_neg]
  · rfl
  · intro he
    rw [List.isEmpty_iff] at he
    rw [trimStart_eq_nil_iff.mp he] at h
    cases h

/-! ## The end -/

theorem trimEnd_append_blank (t : Text) {b : Text} (h : allBlank b = true) :
    trimEnd (t ++ b) = trimEnd t := by
  rw [trimEnd, trimEnd, List.reverse_append, List.dropWhile_append_of_pos]
  intro c hc
  exact isBlank_of_mem h (List.mem_reverse.mp hc)

theorem trimEnd_of_getLast {t : Text} (h : ∀ c ∈ t.getLast?, isBlank c = false) :
    trimEnd t = t := by
  have hr : trimStart t.reverse = t.reverse := trimStart_of_head (by rwa [List.head?_reverse])
  rw [trimEnd, show t.reverse.dropWhile isBlank = t.reverse from hr, List.reverse_reverse]

theorem getLast_trimEnd (t : Text) : ∀ c ∈ (trimEnd t).getLast?, isBlank c = false := by
  rw [trimEnd, List.getLast?_reverse]
  exact head_trimStart t.reverse

theorem exists_eq_trimEnd_append (t : Text) : ∃ b, allBlank b = true ∧ t = trimEnd t ++ b := by
  obtain ⟨a, ha, ht⟩ := exists_eq_append_trimStart t.reverse
  refine ⟨a.reverse, by rw [allBlank, List.all_reverse]; exact ha, ?_⟩
  have hr := congrArg List.reverse ht
  rwa [List.reverse_reverse, List.reverse_append] at hr

theorem trimEnd_append_of_not_blank (u : Text) {t : Text} (h : allBlank t = false) :
    trimEnd (u ++ t) = u ++ trimEnd t := by
  have hr : allBlank t.reverse = false := by
    rw [allBlank, List.all_reverse]
    exact h
  have hs := trimStart_append_of_not_blank hr u.reverse
  rw [trimEnd, List.reverse_append]
  show (trimStart (t.reverse ++ u.reverse)).reverse = _
  rw [hs, List.reverse_append, List.reverse_reverse]
  rfl

/-! ## Both ends -/

theorem trim_append_blank (t : Text) {b : Text} (h : allBlank b = true) :
    trim (t ++ b) = trim t := by
  cases ht : allBlank t with
  | true =>
    have htb : allBlank (t ++ b) = true := by rw [allBlank_append, ht, h]; rfl
    rw [trim, trim, trimStart_eq_nil_iff.mpr htb, trimStart_eq_nil_iff.mpr ht]
  | false => rw [trim, trim, trimStart_append_of_not_blank ht, trimEnd_append_blank _ h]

theorem trim_blank_append {a : Text} (h : allBlank a = true) (t : Text) :
    trim (a ++ t) = trim t := by
  rw [trim, trimStart_blank_append h, trim]

theorem head_trimEnd {t : Text} (h : ∀ c ∈ t.head?, isBlank c = false) :
    ∀ c ∈ (trimEnd t).head?, isBlank c = false := by
  intro c hc
  obtain ⟨b, _, ht⟩ := exists_eq_trimEnd_append t
  refine h c ?_
  rw [ht, List.head?_append]
  simp only [Option.mem_def] at hc ⊢
  rw [hc, Option.some_or]

theorem trimmed_trim (t : Text) : Trimmed (trim t) :=
  ⟨head_trimEnd (head_trimStart t), getLast_trimEnd (trimStart t)⟩

theorem trim_of_trimmed {t : Text} (h : Trimmed t) : trim t = t := by
  rw [trim, trimStart_of_head h.1, trimEnd_of_getLast h.2]

theorem trim_eq_self_iff {t : Text} : trim t = t ↔ Trimmed t :=
  ⟨fun h => h ▸ trimmed_trim t, trim_of_trimmed⟩

@[simp] theorem trim_trim (t : Text) : trim (trim t) = trim t := trim_of_trimmed (trimmed_trim t)

/-- A trimmed text stays when blanks are put around it. -/
theorem trim_surrounded {a t b : Text} (ha : allBlank a = true) (ht : Trimmed t)
    (hb : allBlank b = true) : trim (a ++ t ++ b) = t := by
  rw [trim_append_blank _ hb, trim_blank_append ha, trim_of_trimmed ht]

theorem exists_eq_append_trim_append (t : Text) :
    ∃ a b, allBlank a = true ∧ allBlank b = true ∧ t = a ++ trim t ++ b := by
  obtain ⟨a, ha, hstart⟩ := exists_eq_append_trimStart t
  obtain ⟨b, hb, hend⟩ := exists_eq_trimEnd_append (trimStart t)
  refine ⟨a, b, ha, hb, ?_⟩
  rw [List.append_assoc, trim, ← hend, ← hstart]

theorem infix_trim (t : Text) : trim t <:+: t := by
  obtain ⟨a, b, _, _, ht⟩ := exists_eq_append_trim_append t
  exact ⟨a, b, ht.symm⟩

theorem trim_eq_nil_iff {t : Text} : trim t = [] ↔ allBlank t = true := by
  constructor
  · intro h
    obtain ⟨b, hb, ht⟩ := exists_eq_trimEnd_append (trimStart t)
    rw [show trimEnd (trimStart t) = [] from h, List.nil_append] at ht
    obtain ⟨a, ha, hta⟩ := exists_eq_append_trimStart t
    rw [hta, ht, allBlank_append, ha, hb]
    rfl
  · intro h
    rw [trim, trimStart_eq_nil_iff.mpr h]
    rfl

theorem allBlank_eq_false_of_trimmed {t : Text} (hne : t ≠ []) (h : Trimmed t) :
    allBlank t = false := by
  obtain ⟨c, t, rfl⟩ := List.exists_cons_of_ne_nil hne
  rw [allBlank_cons, h.1 c rfl]
  rfl

/-- What is cut off a text by blanks at its end is cut off behind its last visible character. -/
theorem exists_of_append_eq_append_blank {u w x z : Text} (hz : allBlank z = true) (hne : u ≠ [])
    (hu : ∀ c ∈ u.getLast?, isBlank c = false) (h : u ++ w = x ++ z) :
    ∃ y, x = u ++ y ∧ w = y ++ z := by
  rcases List.append_eq_append_iff.mp h with ⟨y, rfl, rfl⟩ | ⟨y, rfl, rfl⟩
  · exact ⟨y, rfl, rfl⟩
  · rcases List.eq_nil_or_concat y with rfl | ⟨y, c, rfl⟩
    · exact ⟨[], by simp, by simp⟩
    · have hc := hu c (by simp)
      have hb := isBlank_of_mem hz (c := c) (by simp)
      rw [hc] at hb
      cases hb

/-! ## Runs of characters -/

theorem takeWhile_run {p : Char → Bool} {u r : Text} (hu : ∀ c ∈ u, p c = true)
    (hr : ∀ c ∈ r.head?, p c = false) : (u ++ r).takeWhile p = u := by
  rw [List.takeWhile_append_of_pos hu]
  cases r with
  | nil => simp
  | cons c r => simp [hr c rfl]

theorem dropWhile_run {p : Char → Bool} {u r : Text} (hu : ∀ c ∈ u, p c = true)
    (hr : ∀ c ∈ r.head?, p c = false) : (u ++ r).dropWhile p = r := by
  rw [List.dropWhile_append_of_pos hu]
  cases r with
  | nil => rfl
  | cons c r => simp [hr c rfl]

/-! ## Words -/

/-- The members of ranges of code points. -/
def members (ranges : List (Nat × Nat)) : List Nat :=
  ranges.flatMap fun (first, last) => List.range' first (last + 1 - first)

theorem mem_members_of_inRanges {ranges : List (Nat × Nat)} {n : Nat}
    (h : inRanges ranges n = true) : n ∈ members ranges := by
  induction ranges with
  | nil => cases h
  | cons range ranges ih =>
    obtain ⟨first, last⟩ := range
    rw [members, List.flatMap_cons, List.mem_append]
    rw [inRanges] at h
    split at h
    · cases h
    split at h
    · exact .inl (List.mem_range'_1.mpr (by omega))
    · exact .inr (ih h)

theorem blank_members_not_word : ∀ n ∈ members blankRanges, inRanges wordRanges n = false := by
  decide +kernel

theorem isBlank_of_isWord {c : Char} (h : isWord c = true) : isBlank c = false := by
  cases hb : isBlank c with
  | false => rfl
  | true =>
    have hw := blank_members_not_word c.toNat (mem_members_of_inRanges hb)
    rw [show inRanges wordRanges c.toNat = true from h] at hw
    cases hw

end Stencil.Text
