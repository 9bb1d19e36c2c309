import Stencil.Text.StringLiteral

/-!
# Reading string literals

The characters of a string literal, read one after another up to the closing quote. A literal reads
back as the text it was written for, in the plain form (`literal?_stringLiteral`) and in the ASCII form
(`literal?_asciiLiteral`), where a character outside the first plane is written by two units.
-/

namespace Stencil.Text

/-! ## Rules -/

/-- What follows `mark`, if the list begins with it. -/
def after? {α : Type} [DecidableEq α] (mark l : List α) : Option (List α) :=
  if mark.isPrefixOf l then some (l.drop mark.length) else none

section After

variable {α : Type} [DecidableEq α]

theorem after?_append (mark l : List α) : after? mark (mark ++ l) = some l := by
  rw [after?, if_pos (List.isPrefixOf_iff_prefix.mpr (List.prefix_append mark l)),
    List.drop_left]

theorem after?_cons_of_ne {a b : α} (h : a ≠ b) (mark l : List α) :
    after? (a :: mark) (b :: l) = none := by
  simp [after?, List.isPrefixOf, h]

theorem length_after? {mark l rest : List α} (h : after? mark l = some rest) :
    rest.length ≤ l.length := by
  unfold after? at h
  split at h
  · cases h
    simp only [List.length_drop]
    omega
  · cases h

end After

/-- The value of a hexadecimal digit. -/
def hexDigit? (c : Char) : Option Nat :=
  if '0' ≤ c && c ≤ '9' then some (c.toNat - 0x30)
  else if 'a' ≤ c && c ≤ 'f' then some (c.toNat - 0x57)
  else if 'A' ≤ c && c ≤ 'F' then some (c.toNat - 0x37)
  else none

/-- The unit that four hexadecimal digits stand for, and what follows them. -/
def unit? : Text → Option (Nat × Text)
  | a :: b :: c :: d :: rest =>
    match hexDigit? a, hexDigit? b, hexDigit? c, hexDigit? d with
    | some a, some b, some c, some d => some (((a * 16 + b) * 16 + c) * 16 + d, rest)
    | _, _, _, _ => none
  | _ => none

/-- The character that a letter stands for after a backslash. -/
def unescaped? (c : Char) : Option Char :=
  if c = '\x22' || c = '\\' || c = '/' then some c
  else if c = 'n' then some '\n'
  else if c = 'r' then some '\r'
  else if c = 't' then some '\t'
  else if c = 'f' then some '\x0c'
  else if c = 'b' then some '\x08'
  else none

/-- The character that is written by the unit `high` and, if that is the first half of a pair, by the
unit that has to follow. -/
def unitChar? (high : Nat) (rest : Text) : Option (Char × Text) :=
  if high < 0xD800 || 0xE000 ≤ high then some (Char.ofNat high, rest)
  else
    match after? ['\\', 'u'] rest with
    | none => none
    | some rest =>
      match unit? rest with
      | none => none
      | some (low, rest) =>
        if high < 0xDC00 && 0xDC00 ≤ low && low < 0xE000 then
          some (Char.ofNat (0x10000 + (high - 0xD800) * 0x400 + (low - 0xDC00)), rest)
        else none

/-- The first character of the inside of a string literal, and what follows it. -/
def character? : Text → Option (Char × Text)
  | [] => none
  | c :: rest =>
    if c = '\\' then
      match rest with
      | [] => none
      | d :: rest =>
        if d = 'u' then
          match unit? rest with
          | some (unit, rest) => unitChar? unit rest
          | none => none
        else (unescaped? d).map (·, rest)
    else if c = '\x22' || c < ' ' then none
    else some (c, rest)

theorem length_unit? {t rest : Text} {n : Nat} (h : unit? t = some (n, rest)) :
    rest.length < t.length := by
  unfold unit? at h
  split at h
  · split at h
    · cases h
      simp only [List.length_cons]
      omega
    · cases h
  · cases h

theorem length_unitChar? {t rest : Text} {n : Nat} {c : Char} (h : unitChar? n t = some (c, rest)) :
    rest.length ≤ t.length := by
  unfold unitChar? at h
  split at h
  · cases h
    exact Nat.le_refl _
  · split at h
    · cases h
    · next hafter =>
      have := length_after? hafter
      split at h
      · cases h
      · next hunit =>
        have := length_unit? hunit
        split at h
        · obtain ⟨-, rfl⟩ := Prod.mk.inj (Option.some.inj h)
          omega
        · cases h

theorem length_character? {t rest : Text} {c : Char} (h : character? t = some (c, rest)) :
    rest.length < t.length := by
  unfold character? at h
  split at h
  · cases h
  · split at h
    · split at h
      · cases h
      · split at h
        · split at h
          · next hunit =>
            have := length_unit? hunit
            have := length_unitChar? h
            simp only [List.length_cons]
            omega
          · cases h
        · obtain ⟨_, _, h⟩ := Option.map_eq_some_iff.mp h
          cases h
          simp only [List.length_cons]
          omega
    · split at h
      · cases h
      · cases h
        simp only [List.length_cons]
        omega

/-- The text that a string literal stands for, given what follows its opening quote, and what follows
its closing quote. -/
def inside? (t : Text) : Option (Text × Text) :=
  match t with
  | '\x22' :: rest => some ([], rest)
  | t =>
    match h : character? t with
    | none => none
    | some (c, rest) =>
      have := length_character? h
      (inside? rest).map fun (value, rest) => (c :: value, rest)
termination_by t.length

/-- The text that a string literal stands for, and what follows it. -/
def literal? : Text → Option (Text × Text)
  | '\x22' :: rest => inside? rest
  | _ => none

/-! ## Written digits -/

theorem hexDigit?_digitChar {n : Nat} (h : n < 16) : hexDigit? n.digitChar = some n := by
  have hall : ∀ n : Fin 16, hexDigit? n.val.digitChar = some n.val := by decide
  exact hall ⟨n, h⟩

theorem toDigits_step {n : Nat} (h : 16 ≤ n) :
    Nat.toDigits 16 n = Nat.toDigits 16 (n / 16) ++ [(n % 16).digitChar] := by
  have hstep := Nat.toDigits_append_toDigits (b := 16) (n := n / 16) (d := n % 16) (by decide)
    (by omega) (by omega)
  rw [Nat.toDigits_of_lt_base (by omega : n % 16 < 16), Nat.div_add_mod] at hstep
  exact hstep.symm

/-- The four digits of a unit, zeros in front included. -/
theorem hex_four {n : Nat} (h : n < 0x10000) :
    hex 4 n = [(n / 0x1000).digitChar, (n / 0x100 % 16).digitChar, (n / 16 % 16).digitChar,
      (n % 16).digitChar] := by
  have hone {m : Nat} (hm : m < 16) : Nat.toDigits 16 m = [m.digitChar] := Nat.toDigits_of_lt_base hm
  unfold hex
  dsimp only
  by_cases h1 : n < 16
  · have h3 : n / 0x1000 = 0 := by omega
    have h2 : n / 0x100 % 16 = 0 := by omega
    have h1' : n / 16 % 16 = 0 := by omega
    rw [hone h1, h3, h2, h1', Nat.mod_eq_of_lt h1]
    rfl
  rw [toDigits_step (by omega : 16 ≤ n)]
  by_cases h2 : n < 0x100
  · have h3 : n / 0x1000 = 0 := by omega
    have h2' : n / 0x100 % 16 = 0 := by omega
    rw [hone (by omega), h3, h2', Nat.mod_eq_of_lt (by omega : n / 16 < 16)]
    rfl
  rw [toDigits_step (by omega : 16 ≤ n / 16), Nat.div_div_eq_div_mul]
  by_cases h3 : n < 0x1000
  · have h3' : n / 0x1000 = 0 := by omega
    rw [hone (by omega), h3', Nat.mod_eq_of_lt (by omega : n / 0x100 < 16)]
    rfl
  rw [toDigits_step (by omega : 16 ≤ n / (16 * 16)), Nat.div_div_eq_div_mul, hone (by omega)]
  rfl

theorem unit?_hex {n : Nat} (h : n < 0x10000) (rest : Text) :
    unit? (hex 4 n ++ rest) = some (n, rest) := by
  rw [hex_four h]
  show unit? (_ :: _ :: _ :: _ :: rest) = _
  rw [unit?, hexDigit?_digitChar (by omega), hexDigit?_digitChar (by omega),
    hexDigit?_digitChar (by omega), hexDigit?_digitChar (by omega)]
  dsimp only
  congr 2
  omega

/-! ## Written characters -/

theorem unitChar?_one {n : Nat} (h : n < 0xD800 ∨ 0xE000 ≤ n) (rest : Text) :
    unitChar? n rest = some (Char.ofNat n, rest) := by
  unfold unitChar?
  rw [if_pos]
  simpa using h

theorem unitChar?_pair {high low : Nat} (hhigh : 0xD800 ≤ high ∧ high < 0xDC00)
    (hlow : 0xDC00 ≤ low ∧ low < 0xE000) (rest : Text) :
    unitChar? high ('\\' :: 'u' :: (hex 4 low ++ rest)) =
      some (Char.ofNat (0x10000 + (high - 0xD800) * 0x400 + (low - 0xDC00)), rest) := by
  have hafter : after? ['\\', 'u'] ('\\' :: 'u' :: (hex 4 low ++ rest)) = some (hex 4 low ++ rest) :=
    after?_append _ _
  unfold unitChar?
  rw [if_neg (by simp; omega), hafter]
  dsimp only
  rw [unit?_hex (by omega)]
  dsimp only
  rw [if_pos (by simp; omega)]

theorem character?_unit {n : Nat} (h : n < 0x10000) (rest : Text) :
    character? ('\\' :: 'u' :: (hex 4 n ++ rest)) = unitChar? n rest := by
  simp only [character?, if_true, unit?_hex h]

theorem utf16_one {c : Char} (h : c.toNat < 0x10000) : utf16 c = [c.toNat] := if_pos h

theorem utf16_pair {c : Char} (h : ¬ c.toNat < 0x10000) :
    utf16 c = [0xD800 + (c.toNat - 0x10000) / 0x400, 0xDC00 + (c.toNat - 0x10000) % 0x400] :=
  if_neg h

/-- A character that is written by its units. -/
theorem character?_units (c : Char) (rest : Text) :
    character? ((utf16 c).flatMap (fun unit => '\\' :: 'u' :: hex 4 unit) ++ rest) =
      some (c, rest) := by
  have hvalid : c.toNat < 0xD800 ∨ 0xDFFF < c.toNat ∧ c.toNat < 0x110000 := c.valid
  by_cases hplane : c.toNat < 0x10000
  · rw [utf16_one hplane, List.flatMap_singleton, List.cons_append, List.cons_append,
      character?_unit hplane, unitChar?_one (by omega), Char.ofNat_toNat]
  · have hpair : 0x10000 + (0xD800 + (c.toNat - 0x10000) / 0x400 - 0xD800) * 0x400 +
        (0xDC00 + (c.toNat - 0x10000) % 0x400 - 0xDC00) = c.toNat := by omega
    -- Rewriting by name keeps the kernel from computing the digits of a number it does not know.
    rw [utf16_pair hplane, List.flatMap_cons, List.flatMap_singleton, List.append_assoc,
      List.cons_append, List.cons_append, List.cons_append, List.cons_append,
      character?_unit (by omega), unitChar?_pair (by omega) (by omega), hpair, Char.ofNat_toNat]

theorem character?_short {c : Char} {escape : Text} (h : shortEscape? c = some escape)
    (rest : Text) : character? (escape ++ rest) = some (c, rest) := by
  unfold shortEscape? at h
  repeat' split at h
  all_goals cases h
  all_goals subst_vars
  all_goals rfl

variable {verbatim : Char → Bool}

/-- One written character reads back, if only characters from the space on are written as they
are. -/
theorem character?_escapedChar (hverbatim : ∀ c, verbatim c = true → ' ' ≤ c) (c : Char)
    (rest : Text) : character? (escapedChar verbatim c ++ rest) = some (c, rest) := by
  unfold escapedChar
  split
  · next escape hescape => exact character?_short hescape rest
  · next hshort =>
    split
    · next hc =>
      have hle := hverbatim c hc
      have hquote : c ≠ '\x22' := fun h => by rw [h] at hshort; cases hshort
      have hslash : c ≠ '\\' := fun h => by rw [h] at hshort; cases hshort
      have hlow : ¬ c < ' ' := Char.not_lt.mpr hle
      simp [character?, hquote, hslash, hlow]
    · exact character?_units c rest

theorem head?_escapedChar (verbatim : Char → Bool) (c : Char) :
    ∃ d rest, escapedChar verbatim c = d :: rest ∧ d ≠ '\x22' := by
  unfold escapedChar
  split
  · next escape hescape =>
    unfold shortEscape? at hescape
    repeat' split at hescape
    all_goals cases hescape
    all_goals exact ⟨_, _, rfl, by decide⟩
  · next hshort =>
    split
    · exact ⟨c, [], rfl, fun h => by rw [h] at hshort; cases hshort⟩
    · by_cases hplane : c.toNat < 0x10000
      · rw [utf16_one hplane, List.flatMap_singleton]
        exact ⟨_, _, rfl, by decide⟩
      · rw [utf16_pair hplane, List.flatMap_cons, List.cons_append]
        exact ⟨_, _, rfl, by decide⟩

theorem inside?_cons {c : Char} {t rest : Text} (h : character? t = some (c, rest))
    (hquote : ∀ cs, t ≠ '\x22' :: cs) :
    inside? t = (inside? rest).map fun (value, rest) => (c :: value, rest) := by
  rw [inside?]
  · split
    · next hnone =>
      rw [hnone] at h
      cases h
    · next hsome =>
      rw [hsome] at h
      cases h
      rfl
  · exact hquote

theorem inside?_written (hverbatim : ∀ c, verbatim c = true → ' ' ≤ c) (t rest : Text) :
    inside? (t.flatMap (escapedChar verbatim) ++ '\x22' :: rest) = some (t, rest) := by
  induction t with
  | nil => rw [List.flatMap_nil, List.nil_append, inside?]
  | cons c t ih =>
    rw [List.flatMap_cons, List.append_assoc,
      inside?_cons (character?_escapedChar hverbatim c _), ih]
    · rfl
    · intro cs hcs
      obtain ⟨d, u, hd, hne⟩ := head?_escapedChar verbatim c
      rw [hd, List.cons_append] at hcs
      exact hne (List.cons.inj hcs).1

/-- A string literal reads back. -/
theorem literal?_stringLiteral (t rest : Text) :
    literal? (stringLiteral t ++ rest) = some (t, rest) := by
  rw [stringLiteral, List.append_assoc]
  exact inside?_written (fun _ h => of_decide_eq_true h) t rest

/-- A string literal in ASCII reads back. -/
theorem literal?_asciiLiteral (t rest : Text) :
    literal? (asciiLiteral t ++ rest) = some (t, rest) := by
  rw [asciiLiteral, List.append_assoc]
  exact inside?_written (fun _ h => of_decide_eq_true (Bool.and_eq_true_iff.mp h).1) t rest

end Stencil.Text
