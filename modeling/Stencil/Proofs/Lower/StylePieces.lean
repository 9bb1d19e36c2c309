import Stencil.Lower.Style
import Stencil.Proofs.Jsx.StyleMeaning
import Stencil.Proofs.Style.Declaration

/-!
# Values of style declarations

The value of a declaration is gathered in pieces: texts, colons and expressions. The blanks around
the value are cut off the first and the last piece only. This is enough if expressions have firm
values and no text stands next to another, except a colon: then the pieces give the trimmed text of
the value (`evalAll_present`), and the entry of a declaration is what its text declares
(`entry_adds`).
-/

namespace Stencil.Lower

open Jsx Text

/-- A text that can be told from the text around it in a style attribute. -/
structure Firm (t : Text) : Prop where
  ne_nil : t ≠ []
  trimmed : Trimmed t
  colon : ':' ∉ t
  semicolon : ';' ∉ t

/-- A text with something else than a blank at either end. -/
structure Solid (t : Text) : Prop where
  ne_nil : t ≠ []
  trimmed : Trimmed t

theorem Firm.solid {t : Text} (h : Firm t) : Solid t := ⟨h.ne_nil, h.trimmed⟩

theorem solid_colon : Solid [':'] := by
  refine ⟨List.cons_ne_nil _ _, ?_, ?_⟩
  · rintro c ⟨⟩
    decide
  · rintro c ⟨⟩
    decide

theorem Solid.trimStart_append {t : Text} (h : Solid t) (u : Text) :
    trimStart (t ++ u) = t ++ u := by
  obtain ⟨c, t, rfl⟩ := List.exists_cons_of_ne_nil h.ne_nil
  exact trimStart_cons_of_not_blank (h.trimmed.1 c rfl) (t ++ u)

theorem Solid.trimEnd {t : Text} (h : Solid t) : Text.trimEnd t = t :=
  trimEnd_of_getLast h.trimmed.2

theorem Solid.not_blank {t : Text} (h : Solid t) : allBlank t = false :=
  allBlank_eq_false_of_trimmed h.ne_nil h.trimmed

theorem ne_colon_of_blank {t : Text} (h : allBlank t = true) : t ≠ [':'] := by
  rintro rfl
  rw [solid_colon.not_blank] at h
  cases h

variable {Env Value Setting : Type} (I : Interpretation Env Value Setting) (toText : Value → Text)
  (env : Env)

/-! ## Pieces -/

/-- Text, or an expression with a firm value. -/
def IsPiece : Segment → Prop
  | .text _ => True
  | .hole code => Firm (toText (I.value env code))
  | .choice .. | .each .. => False

/-- Pieces of a value. -/
structure Pieces (ps : List Segment) : Prop where
  isPiece : ∀ p ∈ ps, IsPiece I toText env p
  sound : Segment.SoundAll ps

variable {I toText env} {p q : Segment} {ps : List Segment}

theorem IsPiece.sound (h : IsPiece I toText env p) : p.Sound := by
  cases p with
  | text | hole => trivial
  | choice | each => exact h.elim

theorem pieces_nil : Pieces I toText env [] := ⟨List.forall_mem_nil _, trivial⟩

theorem pieces_cons : Pieces I toText env (p :: ps) ↔
    IsPiece I toText env p ∧ (∀ r ∈ ps.head?, p.Apart r) ∧ Pieces I toText env ps := by
  constructor
  · rintro ⟨hpieces, -, happart, hsound⟩
    obtain ⟨hp, hps⟩ := List.forall_mem_cons.mp hpieces
    exact ⟨hp, happart, hps, hsound⟩
  · rintro ⟨hp, happart, hps, hsound⟩
    exact ⟨List.forall_mem_cons.mpr ⟨hp, hps⟩, hp.sound, happart, hsound⟩

/-- A piece next to a text that is no colon is solid. -/
theorem solid_of_apart {t : Text} (ht : t ≠ [':']) (hp : IsPiece I toText env p)
    (h : p.Apart (.text t) ∨ Segment.Apart (.text t) p) : Solid (p.eval I toText env) := by
  cases p with
  | text u =>
    have hu : u = [':'] := by
      rcases h with (h | h) | (h | h)
      · exact h
      · exact absurd h ht
      · exact absurd h ht
      · exact h
    rw [hu]
    exact solid_colon
  | hole => exact Firm.solid hp
  | choice | each => exact hp.elim

/-! ## Trimming -/

theorem evalAll_trimFirst (h : Pieces I toText env ps) :
    Segment.evalAll I toText env (trimFirst ps) = trimStart (Segment.evalAll I toText env ps) := by
  cases ps with
  | nil => rfl
  | cons p ps =>
    obtain ⟨hp, happart, hps⟩ := pieces_cons.mp h
    cases p with
    | text t =>
      show trimStart t ++ Segment.evalAll I toText env ps =
        trimStart (t ++ Segment.evalAll I toText env ps)
      cases ht : allBlank t with
      | false => rw [trimStart_append_of_not_blank ht]
      | true =>
        rw [trimStart_eq_nil_iff.mpr ht, trimStart_blank_append ht, List.nil_append]
        cases ps with
        | nil => rfl
        | cons q ps =>
          have hq : Solid (q.eval I toText env) :=
            solid_of_apart (ne_colon_of_blank ht) (pieces_cons.mp hps).1 (.inr (happart q rfl))
          exact (hq.trimStart_append _).symm
    | hole code => exact ((Firm.solid hp).trimStart_append _).symm
    | choice | each => exact hp.elim

theorem evalAll_trimLast (h : Pieces I toText env ps) :
    Segment.evalAll I toText env (trimLast ps) = trimEnd (Segment.evalAll I toText env ps) := by
  fun_induction trimLast ps with
  | case1 => rfl
  | case2 t =>
    simp only [Segment.evalAll, Segment.eval, List.append_nil]
  | case3 p ps hne ih =>
    obtain ⟨hp, happart, hps⟩ := pieces_cons.mp h
    rw [Segment.evalAll, Segment.evalAll, ih hps]
    cases hblank : allBlank (Segment.evalAll I toText env ps) with
    | false => rw [trimEnd_append_of_not_blank _ hblank]
    | true =>
      -- Only the last piece can be blank, and the one before it is solid.
      have hsolid : Solid (p.eval I toText env) := by
        cases ps with
        | nil =>
          cases p with
          | text t => exact absurd rfl (hne t rfl)
          | hole => exact Firm.solid hp
          | choice | each => exact hp.elim
        | cons q ps =>
          rw [Segment.evalAll, allBlank_append, Bool.and_eq_true] at hblank
          have hq := (pieces_cons.mp hps).1
          cases q with
          | text t => exact solid_of_apart (ne_colon_of_blank hblank.1) hp (.inl (happart _ rfl))
          | hole code =>
            have hcode := (Firm.solid hq).not_blank
            rw [Segment.eval] at hblank
            rw [hblank.1] at hcode
            cases hcode
          | choice | each => exact hq.elim
      rw [trimEnd_append_blank _ hblank, hsolid.trimEnd, ← List.nil_append
        (Segment.evalAll I toText env ps), trimEnd_append_blank _ hblank]
      exact List.append_nil _

/-! ## What is left of the pieces -/

theorem apart_text_left {t u : Text} (htu : t = [':'] → u = [':'])
    (h : Segment.Apart (.text t) q) : Segment.Apart (.text u) q := by
  cases q with
  | text v => exact h.imp_left htu
  | hole | choice | each => trivial

theorem apart_text_right {t u : Text} (htu : t = [':'] → u = [':'])
    (h : p.Apart (.text t)) : p.Apart (.text u) := by
  cases p with
  | text v => exact h.imp_right htu
  | hole | choice | each => trivial

/-- A piece that an empty text may follow may be followed by anything. -/
theorem apart_of_empty (h : p.Apart (.text [])) : p.Apart q := by
  cases p with
  | text v =>
    rcases h with rfl | h
    · cases q with
      | text => exact .inl rfl
      | hole | choice | each => trivial
    · cases h
  | hole | choice | each => trivial

theorem pieces_trimFirst (h : Pieces I toText env ps) : Pieces I toText env (trimFirst ps) := by
  cases ps with
  | nil => exact h
  | cons p ps =>
    cases p with
    | text t =>
      obtain ⟨-, happart, hps⟩ := pieces_cons.mp h
      have hcolon : t = [':'] → trimStart t = [':'] := by
        rintro rfl
        exact solid_colon.trimStart_append []
      exact pieces_cons.mpr ⟨trivial, fun r hr => apart_text_left hcolon (happart r hr), hps⟩
    | hole | choice | each => exact h

theorem head?_trimLast {r : Segment} (h : r ∈ (trimLast ps).head?) :
    r ∈ ps.head? ∨ ∃ t, ps.head? = some (.text t) ∧ r = .text (trimEnd t) := by
  revert h
  fun_cases trimLast ps with
  | case1 => exact nofun
  | case2 t =>
    intro h
    exact .inr ⟨t, rfl, (Option.mem_some.mp h).symm⟩
  | case3 => exact .inl

theorem pieces_trimLast (h : Pieces I toText env ps) : Pieces I toText env (trimLast ps) := by
  fun_induction trimLast ps with
  | case1 => exact h
  | case2 t => exact pieces_cons.mpr ⟨trivial, nofun, pieces_nil⟩
  | case3 p ps hne ih =>
    obtain ⟨hp, happart, hps⟩ := pieces_cons.mp h
    refine pieces_cons.mpr ⟨hp, fun r hr => ?_, ih hps⟩
    rcases head?_trimLast hr with hr | ⟨t, ht, rfl⟩
    · exact happart r hr
    · have hcolon : t = [':'] → trimEnd t = [':'] := by
        rintro rfl
        exact solid_colon.trimEnd
      exact apart_text_right hcolon (happart _ ht)

theorem pieces_present (h : Pieces I toText env ps) :
    Pieces I toText env (ps.filter isPresent) := by
  induction ps with
  | nil => exact h
  | cons p ps ih =>
    obtain ⟨hp, happart, hps⟩ := pieces_cons.mp h
    rw [List.filter_cons]
    split
    · refine pieces_cons.mpr ⟨hp, fun r hr => ?_, ih hps⟩
      cases ps with
      | nil => cases hr
      | cons q ps =>
        have hq := happart q rfl
        rw [List.filter_cons] at hr
        split at hr
        · exact Option.mem_some.mp hr ▸ hq
        next hempty =>
          -- What is left out is an empty text.
          have hempty : q = .text [] := by
            unfold isPresent at hempty
            split at hempty
            · rfl
            · exact absurd rfl hempty
          exact apart_of_empty (hempty ▸ hq)
    · exact ih hps

theorem evalAll_filter (ps : List Segment) :
    Segment.evalAll I toText env (ps.filter isPresent) = Segment.evalAll I toText env ps := by
  induction ps with
  | nil => rfl
  | cons p ps ih =>
    rw [List.filter_cons]
    split
    · rw [Segment.evalAll, Segment.evalAll, ih]
    next hempty =>
      unfold isPresent at hempty
      split at hempty
      · rw [ih, Segment.evalAll, Segment.eval, List.nil_append]
      · exact absurd rfl hempty

/-- The pieces of which an entry is made. -/
def present (ps : List Segment) : List Segment := (trimLast (trimFirst ps)).filter isPresent

theorem Pieces.present (h : Pieces I toText env ps) : Pieces I toText env (present ps) :=
  pieces_present (pieces_trimLast (pieces_trimFirst h))

theorem evalAll_present (h : Pieces I toText env ps) :
    Segment.evalAll I toText env (present ps) = trim (Segment.evalAll I toText env ps) := by
  rw [present, evalAll_filter, evalAll_trimLast (pieces_trimFirst h), evalAll_trimFirst h, trim]

/-- Pieces are left exactly of a value that is not blank. -/
theorem present_eq_nil_iff (h : Pieces I toText env ps) :
    present ps = [] ↔ allBlank (Segment.evalAll I toText env ps) = true := by
  rw [← trim_eq_nil_iff, ← evalAll_present h]
  constructor
  · intro hnil
    rw [hnil]
    rfl
  · intro heval
    cases hps : present ps with
    | nil => rfl
    | cons p qs =>
      have hp : IsPiece I toText env p := h.present.isPiece p (hps ▸ List.mem_cons_self)
      have hpresent : isPresent p = true :=
        (List.mem_filter.mp (show p ∈ present ps from hps ▸ List.mem_cons_self)).2
      rw [hps, Segment.evalAll, List.append_eq_nil_iff] at heval
      cases p with
      | text t =>
        rw [show t = [] from heval.1] at hpresent
        cases hpresent
      | hole => exact absurd heval.1 (Firm.ne_nil hp)
      | choice | each => exact hp.elim

theorem plainText_eq (h : ps.all Segment.isText = true) :
    plainText ps = Segment.evalAll I toText env ps := by
  induction ps with
  | nil => rfl
  | cons p ps ih =>
    rw [List.all_cons, Bool.and_eq_true] at h
    rw [Segment.evalAll, ← ih h.2]
    cases p with
    | text => rfl
    | hole | choice | each => cases h.1

theorem all_isText_trimFirst (ps : List Segment) :
    (trimFirst ps).all Segment.isText = ps.all Segment.isText := by
  fun_cases trimFirst ps with
  | case1 | case2 => rfl

theorem all_isText_trimLast (ps : List Segment) :
    (trimLast ps).all Segment.isText = ps.all Segment.isText := by
  fun_induction trimLast ps with
  | case1 | case2 => rfl
  | case3 p ps _ ih => rw [List.all_cons, List.all_cons, ih]

/-- Only texts are trimmed or left out. -/
theorem all_isText_present (ps : List Segment) :
    (present ps).all Segment.isText = ps.all Segment.isText := by
  have hleft (p : Segment) : (!isPresent p || p.isText) = p.isText := by
    fun_cases isPresent p <;> rfl
  rw [present, List.all_filter]
  simp only [hleft]
  rw [all_isText_trimLast, all_isText_trimFirst]

/-! ## Entries -/

variable (I toText env) in
/-- What entries add to what was declared before. -/
def Adds (es : List StyleEntry) (before now : List (Text × Text)) : Prop :=
  ∀ k, now.lookup k = (StyleEntry.evalAll I toText env es k).or (before.lookup k)

theorem adds_nil (before : List (Text × Text)) : Adds I toText env [] before before :=
  fun _ => rfl

theorem adds_append {es fs : List StyleEntry} {before mid now : List (Text × Text)}
    (hes : Adds I toText env es before mid) (hfs : Adds I toText env fs mid now) :
    Adds I toText env (es ++ fs) before now := by
  have heval : ∀ k, StyleEntry.evalAll I toText env (es ++ fs) k =
      (StyleEntry.evalAll I toText env fs k).or (StyleEntry.evalAll I toText env es k) := by
    intro k
    clear hes
    induction es with
    | nil =>
      show _ = Option.or _ none
      rw [Option.or_none, List.nil_append]
    | cons e es ih =>
      rw [List.cons_append, StyleEntry.evalAll, StyleEntry.evalAll]
      simp only [Fields.overlay]
      rw [ih, Option.or_assoc]
  intro k
  rw [hfs k, hes k, heval k, Option.or_assoc]

/-- An entry that gives one text to one key. -/
theorem adds_one {e : StyleEntry} {key value : Text}
    (he : e.eval I toText env = .one key value) (before : List (Text × Text)) :
    Adds I toText env [e] before (Style.put key value before) := by
  intro k
  rw [Style.lookup_put, StyleEntry.evalAll, StyleEntry.evalAll, he]
  simp only [Fields.overlay, Fields.none, Fields.one, Option.none_or]
  split <;> rfl

/-- The entry of a declaration is what its text declares. -/
theorem entry_adds {name : Text} {done : List StyleEntry} (hps : Pieces I toText env ps)
    (h : entry name ps = .ok done) (hcolon : ':' ∉ name) (hname : ';' ∉ name)
    (hvalue : ';' ∉ Segment.evalAll I toText env ps) :
    StyleEntry.SoundAll done ∧ ∀ {before now},
      Style.declare before (name ++ ':' :: Segment.evalAll I toText env ps) = .ok now →
        Adds I toText env done before now := by
  have heval := evalAll_present hps
  have hblank := present_eq_nil_iff hps
  unfold entry at h
  dsimp only at h
  rw [show (trimLast (trimFirst ps)).filter isPresent = present ps from rfl] at h
  split at h
  next hnil =>
    cases h
    refine ⟨trivial, fun {before now} hdeclare => ?_⟩
    have hnow := (Style.declare_pair hcolon hname hvalue hdeclare).2
    rw [if_pos (hblank.mp (List.isEmpty_iff.mp hnil))] at hnow
    rw [hnow]
    exact adds_nil before
  next hnil =>
    have hvisible : ¬ allBlank (Segment.evalAll I toText env ps) = true :=
      fun hv => hnil (List.isEmpty_iff.mpr (hblank.mpr hv))
    -- In both forms the entry gives the trimmed value to the key.
    have hadds {e : StyleEntry} (he : e.eval I toText env =
        .one (Style.key (trim name)) (trim (Segment.evalAll I toText env ps)))
        {before now : List (Text × Text)}
        (hdeclare :
          Style.declare before (name ++ ':' :: Segment.evalAll I toText env ps) = .ok now) :
        Adds I toText env [e] before now := by
      have hnow := (Style.declare_pair hcolon hname hvalue hdeclare).2
      rw [if_neg hvisible] at hnow
      rw [hnow]
      exact adds_one he before
    split at h
    · cases h
    · split at h
      next htext =>
        cases h
        refine ⟨⟨trivial, trivial⟩, hadds ?_⟩
        rw [StyleEntry.eval, plainText_eq htext, heval]
      next =>
        cases h
        refine ⟨⟨hps.present.sound, trivial⟩, hadds ?_⟩
        rw [StyleEntry.eval, heval]

end Stencil.Lower
