import Stencil.Jsx.Markup
import Stencil.Proofs.Text.Mark
import Stencil.Proofs.Text.StringLiteral

/-!
# Character references

In markup text and in a quoted attribute value a reference such as `&amp;` stands for a character;
in a string it stands for itself. Which references there are is left open, but for five of them.
Decoding leaves a text as it is if and only if no reference occurs in it (`decode_eq_self_iff`), and
the characters that markup text writes as expressions keep references apart
(`readMarkup_markupText`).
-/

namespace Stencil.Jsx

open Text

/-- References that every reading of markup knows, by name. -/
def basicReferences : List (Text × Char) :=
  [("amp".toList, '&'), ("lt".toList, '<'), ("gt".toList, '>'), ("quot".toList, '\x22'),
   ("nbsp".toList, '\xa0')]

/-- Whether a character may stand between the ampersand and the semicolon of a reference. -/
def isReferenceChar (c : Char) : Bool := c.isAlphanum || c = '#'

structure References where
  /-- The character that a name stands for. -/
  named : Text → Option Char
  isName : ∀ {n : Text} {c : Char}, named n = some c → ∀ x ∈ n, isReferenceChar x = true
  basic : ∀ r ∈ basicReferences, named r.1 = some r.2

namespace References

variable (R : References)

/-! ## Decoding -/

/-- The reference that a text begins with: its character, and what follows. -/
def leading? : Text → Option (Char × Text)
  | '&' :: t =>
    match cut? [';'] t with
    | some (name, rest) => (R.named name).map (·, rest)
    | none => none
  | _ => none

/-- A reference occurs in the text. -/
def Occurs (t : Text) : Prop :=
  ∃ before name rest, t = before ++ '&' :: name ++ ';' :: rest ∧ (R.named name).isSome = true

variable {R}

theorem leading?_eq_some_iff {t rest : Text} {c : Char} :
    R.leading? t = some (c, rest) ↔
      ∃ name, t = '&' :: name ++ ';' :: rest ∧ R.named name = some c := by
  constructor
  · intro h
    unfold leading? at h
    split at h
    next t =>
      split at h
      next name after hcut =>
        obtain ⟨d, hd, hpair⟩ := Option.map_eq_some_iff.mp h
        cases hpair
        obtain ⟨ht, -⟩ := cut?_sound (List.cons_ne_nil _ _) hcut
        refine ⟨name, ?_, hd⟩
        rw [ht, List.append_assoc]
        rfl
      next => cases h
    next => cases h
  · rintro ⟨name, rfl, hname⟩
    have hsemicolon : ';' ∉ name := fun h => absurd (R.isName hname ';' h) (by decide)
    rw [List.cons_append, leading?, cut?_char hsemicolon rest]
    dsimp only
    rw [hname]
    rfl

theorem length_leading? {t rest : Text} {c : Char} (h : R.leading? t = some (c, rest)) :
    rest.length + 2 ≤ t.length := by
  obtain ⟨name, rfl, -⟩ := leading?_eq_some_iff.mp h
  simp only [List.cons_append, List.length_cons, List.length_append]
  omega

variable (R)

/-- The text with the references in it replaced by what they stand for. -/
def decode (t : Text) : Text :=
  match t with
  | [] => []
  | c :: cs =>
    match h : R.leading? (c :: cs) with
    | some (d, rest) =>
      have := length_leading? h
      d :: decode rest
    | none => c :: decode cs
termination_by t.length
decreasing_by all_goals simp only [List.length_cons] at *; omega

variable {R}

theorem decode_of_leading? {t rest : Text} {c : Char} (h : R.leading? t = some (c, rest)) :
    R.decode t = c :: R.decode rest := by
  cases t with
  | nil => cases h
  | cons d ds =>
    rw [decode]
    split
    next hsome =>
      rw [h] at hsome
      cases hsome
      rfl
    next hnone =>
      rw [h] at hnone
      cases hnone

theorem decode_cons {c : Char} {t : Text} (h : R.leading? (c :: t) = none) :
    R.decode (c :: t) = c :: R.decode t := by
  rw [decode]
  split
  next hsome =>
    rw [h] at hsome
    cases hsome
  next => rfl

theorem length_decode_le (t : Text) : (R.decode t).length ≤ t.length := by
  fun_induction decode R t with
  | case1 => exact Nat.le_refl _
  | case2 c cs d rest h hlength ih =>
    simp only [List.length_cons] at *
    omega
  | case3 c cs h ih =>
    simp only [List.length_cons]
    omega

theorem occurs_of_leading? {t rest : Text} {c : Char} (h : R.leading? t = some (c, rest)) :
    R.Occurs t := by
  obtain ⟨name, rfl, hname⟩ := leading?_eq_some_iff.mp h
  exact ⟨[], name, rest, rfl, by rw [hname]; rfl⟩

theorem occurs_cons_iff {c : Char} {t : Text} (h : R.leading? (c :: t) = none) :
    R.Occurs (c :: t) ↔ R.Occurs t := by
  constructor
  · rintro ⟨before, name, rest, ht, hname⟩
    cases before with
    | nil =>
      obtain ⟨d, hd⟩ := Option.isSome_iff_exists.mp hname
      rw [leading?_eq_some_iff.mpr ⟨name, ht, hd⟩] at h
      cases h
    | cons b before =>
      cases ht
      exact ⟨before, name, rest, rfl, hname⟩
  · rintro ⟨before, name, rest, rfl, hname⟩
    exact ⟨c :: before, name, rest, rfl, hname⟩

/-- A decoded reference is shorter than it is written, so decoding changes a text that has one. -/
theorem decode_eq_self_iff (t : Text) : R.decode t = t ↔ ¬ R.Occurs t := by
  fun_induction decode R t with
  | case1 =>
    refine ⟨fun _ => ?_, fun _ => rfl⟩
    rintro ⟨before, name, rest, h, -⟩
    have hlength := congrArg List.length h
    simp at hlength
  | case2 c cs d rest h hlength ih =>
    refine ⟨fun heq => absurd heq fun heq => ?_, fun hno => absurd (occurs_of_leading? h) hno⟩
    have hle := length_decode_le (R := R) rest
    have heq := congrArg List.length heq
    simp only [List.length_cons] at *
    omega
  | case3 c cs h ih =>
    rw [occurs_cons_iff h, ← ih, List.cons.injEq]
    exact ⟨fun h => h.2, fun h => ⟨rfl, h⟩⟩

/-- Whatever other references a reading knows, it finds the five. -/
theorem occurs_basic {r : Text × Char} (h : r ∈ basicReferences) (before rest : Text) :
    R.Occurs (before ++ '&' :: r.1 ++ ';' :: rest) :=
  ⟨before, r.1, rest, rfl, by rw [R.basic r h]; rfl⟩

/-! ## Text between tags -/

/-- No reference goes beyond a character that cannot stand in one. -/
theorem leading?_append {x : Char} (hx : isReferenceChar x = false) (hmark : x ≠ '&')
    (hend : x ≠ ';') (u v : Text) :
    R.leading? (u ++ x :: v) = (R.leading? u).map fun (c, rest) => (c, rest ++ x :: v) := by
  cases hu : R.leading? u with
  | some found =>
    obtain ⟨c, rest⟩ := found
    obtain ⟨name, rfl, hname⟩ := leading?_eq_some_iff.mp hu
    exact leading?_eq_some_iff.mpr ⟨name, by simp, hname⟩
  | none =>
    cases hv : R.leading? (u ++ x :: v) with
    | none => rfl
    | some found =>
      obtain ⟨c, rest⟩ := found
      obtain ⟨name, hshape, hname⟩ := leading?_eq_some_iff.mp hv
      have hmem : x ∉ '&' :: name ++ [';'] := by
        intro h
        simp only [List.cons_append, List.mem_cons, List.mem_append, List.not_mem_nil,
          or_false] at h
        rcases h with h | h | h
        · exact hmark h
        · rw [R.isName hname x h] at hx
          cases hx
        · exact hend h
      -- The reference ends before the character, so it is one of the text before it.
      have hsplit : u ++ x :: v = ('&' :: name ++ [';']) ++ rest := by rw [hshape]; simp
      have hbegin : ∃ w, u = ('&' :: name ++ [';']) ++ w := by
        rcases List.append_eq_append_iff.mp hsplit with ⟨w, hw, hxv⟩ | ⟨w, hw, -⟩
        · cases w with
          | nil => exact ⟨[], by rw [hw]; simp⟩
          | cons y w =>
            cases hxv
            exact absurd (hw ▸ List.mem_append_right u List.mem_cons_self) hmem
        · exact ⟨w, hw⟩
      obtain ⟨w, rfl⟩ := hbegin
      have hsome : R.leading? ('&' :: name ++ [';'] ++ w) = some (c, w) :=
        leading?_eq_some_iff.mpr ⟨name, List.append_assoc _ _ _, hname⟩
      rw [hu] at hsome
      cases hsome

theorem decode_append {x : Char} (hx : isReferenceChar x = false) (hmark : x ≠ '&') (hend : x ≠ ';')
    (u v : Text) : R.decode (u ++ x :: v) = R.decode u ++ x :: R.decode v := by
  fun_induction decode R u with
  | case1 =>
    have hnone : R.leading? (x :: v) = none := leading?_append hx hmark hend [] v
    exact decode_cons hnone
  | case2 c cs d rest h hlength ih =>
    have hsome : R.leading? (c :: cs ++ x :: v) = some (d, rest ++ x :: v) := by
      rw [leading?_append hx hmark hend, h]
      rfl
    rw [decode_of_leading? hsome, ih]
    rfl
  | case3 c cs h ih =>
    have hnone : R.leading? (c :: cs ++ x :: v) = none := by
      rw [leading?_append hx hmark hend, h]
      rfl
    rw [List.cons_append] at hnone ⊢
    rw [decode_cons hnone, ih]
    rfl

variable (R)

/-- The text that markup without tags denotes. A string of one character in braces stands for that
character; the references in the runs of text between such strings are decoded. What has been read
of a run is kept in `run`. -/
def readMarkup (run : Text) : Text → Option Text
  | [] => some (R.decode run)
  | '{' :: '\x22' :: c :: '\x22' :: '}' :: t =>
    match literal? ['\x22', c, '\x22'] with
    | some (value, []) => (readMarkup [] t).map (R.decode run ++ value ++ ·)
    | _ => none
  | c :: t =>
    if c = '{' || c = '}' || c = '<' || c = '>' then none else readMarkup (run ++ [c]) t

variable {R}

theorem readMarkup_container {c : Char} (hc : stringLiteral [c] = ['\x22', c, '\x22'])
    (run t : Text) : R.readMarkup run ('{' :: '\x22' :: c :: '\x22' :: '}' :: t) =
      (R.readMarkup [] t).map (R.decode run ++ [c] ++ ·) := by
  have hliteral : literal? ['\x22', c, '\x22'] = some ([c], []) := by
    have h := literal?_stringLiteral [c] []
    rwa [List.append_nil, hc] at h
  rw [readMarkup, hliteral]

theorem readMarkup_char {c : Char} (hc : (c = '{' || c = '}' || c = '<' || c = '>') = false)
    (run t : Text) : R.readMarkup run (c :: t) = R.readMarkup (run ++ [c]) t := by
  rw [readMarkup, if_neg (Bool.not_eq_true _ ▸ hc)]
  rintro _ _ rfl
  cases hc

/-- Text between tags denotes the text that it is written for, with the references decoded. -/
theorem readMarkup_markupText {t : Text} (h : '<' ∉ t) (run : Text) :
    R.readMarkup run (markupText t) = some (R.decode (run ++ t)) := by
  induction t generalizing run with
  | nil => rw [List.append_nil]; rfl
  | cons c t ih =>
    rw [List.mem_cons, not_or] at h
    by_cases hc : (c = '{' || c = '}' || c = '>') = true
    · have hshape : markupText (c :: t) = '{' :: '\x22' :: c :: '\x22' :: '}' :: markupText t := by
        unfold markupText
        rw [List.flatMap_cons, if_pos hc]
        rfl
      have hplain : stringLiteral [c] = ['\x22', c, '\x22'] ∧ isReferenceChar c = false ∧ c ≠ '&' ∧
          c ≠ ';' := by
        simp only [Bool.or_eq_true, decide_eq_true_eq] at hc
        rcases hc with (rfl | rfl) | rfl <;> exact ⟨rfl, rfl, by decide, by decide⟩
      rw [hshape, readMarkup_container hplain.1, ih h.2, decode_append hplain.2.1 hplain.2.2.1
        hplain.2.2.2]
      simp
    · have hshape : markupText (c :: t) = c :: markupText t := by
        unfold markupText
        rw [List.flatMap_cons, if_neg hc]
        rfl
      have hplain : (c = '{' || c = '}' || c = '<' || c = '>') = false := by
        have hangle : c ≠ '<' := fun hangle => h.1 hangle.symm
        simp only [Bool.or_eq_true, decide_eq_true_eq, not_or] at hc
        simp [hc, hangle]
      rw [hshape, readMarkup_char hplain, ih h.2, List.append_assoc]
      rfl

/-- The reading that knows no other references than the five. -/
def five : References where
  named name := basicReferences.lookup name
  isName {n c} h := by
    have hmem : (n, c) ∈ basicReferences := by
      obtain ⟨before, after, happ, -⟩ := List.lookup_eq_some_iff.mp h
      rw [happ]
      exact List.mem_append_right _ List.mem_cons_self
    have hall : basicReferences.all (fun r => r.1.all isReferenceChar) = true := by decide
    exact List.all_eq_true.mp (List.all_eq_true.mp hall _ hmem)
  basic := by decide

end References

end Stencil.Jsx
