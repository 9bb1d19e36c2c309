import Stencil.Proofs.Event.Lexeme

/-!
# Scanning without positions

The tokens of a text do not depend on where it stands. A `Zone` is a region of the scanner without
its positions, and `Zone.read` gives the tokens of a text that is scanned from a zone to its end,
if there is no fault. It is described by single steps (`read_cons`), which `Zone.Takes` puts in the
form in which they are used: before `rest`, the text `u` is taken and gives the tokens `ts`.
-/

namespace Stencil

open Text

/-- Where in a template the scanner is, up to positions. -/
inductive Zone where
  | content
  | area (tag : Text)
  | value (tag : Text)
deriving DecidableEq

def Region.zone : Region → Zone
  | .content => .content
  | .attributes tag _ => .area tag
  | .value tag _ _ => .value tag

/-- The tokens of a scan without a fault. -/
def Scan.tokens? (s : Scan) : Option (List Token) :=
  match s.error with
  | none => some (s.events.map Event.token)
  | some _ => none

namespace Zone

def region : Zone → Region
  | .content => .content
  | .area tag => .attributes tag 0
  | .value tag => .value tag 0 0

@[simp] theorem zone_region (p : Zone) : p.region.zone = p := by cases p <;> rfl

/-- A step of the scanner without its positions: the tokens, where the scanner is then, and how many
characters it takes after the first one. -/
def view : Scan.Step → Option (List Token × Zone × Nat)
  | .advance events region more => some (events.map Event.token, region.zone, more)
  | .fail _ _ => none

theorem view_advance {events : List Event} {region : Region} {k : Nat} {us : List Token} {z : Zone}
    {more : Nat} (h : view (.advance events region k) = some (us, z, more)) :
    us = events.map Event.token ∧ z = region.zone ∧ more = k := by
  cases h
  exact ⟨rfl, rfl, rfl⟩

def step (p : Zone) (c : Char) (cs : Text) : Option (List Token × Zone × Nat) :=
  view (Scan.step 0 c cs p.region)

/-- The tokens of a text that is scanned from a zone to its end. -/
def read (p : Zone) (t : Text) : Option (List Token) := (scanFrom p.region 0 t).tokens?

/-! ## Positions do not matter -/

theorem view_directive (region : Region) (pos : Nat) (rest : Text) :
    view (Scan.directive region pos rest) = view (Scan.directive region.zone.region 0 rest) := by
  unfold Scan.directive
  split
  · rfl
  · split
    · rfl
    · simp [view]

theorem view_namedAttribute (tag : Text) (tagAt pos : Nat) (c : Char) (cs : Text) :
    view (Scan.namedAttribute tag tagAt pos c cs) = view (Scan.namedAttribute tag 0 0 c cs) := by
  simp only [Scan.namedAttribute]
  split
  · split
    · split <;> rfl
    · rfl
  · rfl

theorem view_contentStep (pos : Nat) (c : Char) (cs : Text) :
    view (Scan.contentStep pos c cs) = view (Scan.contentStep 0 c cs) := by
  unfold Scan.contentStep
  split
  · exact view_directive .content pos _
  · unfold Scan.closingTag
    split
    · rfl
    · simp only
      split
      · rfl
      · split
        · rfl
        · split <;> rfl
  · unfold Scan.comment
    split <;> rfl
  · unfold Scan.openingTag
    simp only
    split
    · rfl
    · split
      · rfl
      · split <;> rfl
  · rfl

theorem view_attributesStep (tag : Text) (tagAt pos : Nat) (c : Char) (cs : Text) :
    view (Scan.attributesStep tag tagAt pos c cs) = view (Scan.attributesStep tag 0 0 c cs) := by
  unfold Scan.attributesStep
  split
  · exact view_directive (.attributes tag tagAt) pos _
  · split <;> rfl
  · rfl
  · split
    · rfl
    · split
      · exact view_namedAttribute tag tagAt pos c cs
      · rfl

theorem view_valueStep (tag : Text) (tagAt nameAt pos : Nat) (c : Char) (cs : Text) :
    view (Scan.valueStep tag tagAt nameAt pos c cs) = view (Scan.valueStep tag 0 0 0 c cs) := by
  unfold Scan.valueStep
  split
  · exact view_directive (.value tag tagAt nameAt) pos _
  · rfl
  · rfl

theorem view_step (region : Region) (pos : Nat) (c : Char) (cs : Text) :
    view (Scan.step pos c cs region) = region.zone.step c cs := by
  cases region with
  | content => exact view_contentStep pos c cs
  | attributes tag tagAt => exact view_attributesStep tag tagAt pos c cs
  | value tag tagAt nameAt => exact view_valueStep tag tagAt nameAt pos c cs

theorem tokens?_append (events : List Event) (s : Scan) :
    (Scan.mk (events ++ s.events) s.error).tokens? =
      s.tokens?.map (events.map Event.token ++ ·) := by
  unfold Scan.tokens?
  cases s.error <;> simp

theorem tokens?_nil (region : Region) (pos : Nat) :
    (scanFrom region pos []).tokens? = if region.zone = .content then some [] else none := by
  rw [scanFrom]
  cases region <;> rfl

theorem tokens?_cons (region : Region) (pos : Nat) (c : Char) (cs : Text) :
    (scanFrom region pos (c :: cs)).tokens? =
      match Scan.step pos c cs region with
      | .fail _ _ => none
      | .advance events region more =>
        (scanFrom region (pos + more + 1) (cs.drop more)).tokens?.map
          (events.map Event.token ++ ·) := by
  rw [scanFrom]
  cases Scan.step pos c cs region with
  | fail => rfl
  | advance events region more => exact tokens?_append events _

/-- What a text is scanned to depends on the zone and on nothing else. -/
theorem tokens?_scanFrom (region : Region) (pos : Nat) (t : Text) :
    (scanFrom region pos t).tokens? = region.zone.read t := by
  -- The induction is on the length of the text, for all regions and positions at once.
  generalize hn : t.length = n
  induction n using Nat.strongRecOn generalizing region pos t with
  | _ n ih =>
    unfold read
    cases t with
    | nil => rw [tokens?_nil, tokens?_nil, zone_region]
    | cons c cs =>
      have hlt : ∀ more, (cs.drop more).length < n := by
        intro more
        rw [← hn, List.length_drop, List.length_cons]
        omega
      have h₁ := view_step region pos c cs
      have h₂ := view_step region.zone.region 0 c cs
      rw [zone_region] at h₂
      rw [tokens?_cons, tokens?_cons]
      rw [← h₂] at h₁
      cases hs₁ : Scan.step pos c cs region with
      | fail events error =>
        cases hs₂ : Scan.step 0 c cs region.zone.region with
        | fail => rfl
        | advance => simp [hs₁, hs₂, view] at h₁
      | advance events r more =>
        cases hs₂ : Scan.step 0 c cs region.zone.region with
        | fail => simp [hs₁, hs₂, view] at h₁
        | advance events' r' more' =>
          simp only [hs₁, hs₂, view, Option.some.injEq, Prod.mk.injEq] at h₁
          obtain ⟨he, hr, rfl⟩ := h₁
          simp only [ih _ (hlt more) _ _ _ rfl, he, hr]

/-! ## Single steps -/

@[simp] theorem read_content_nil : content.read [] = some [] := tokens?_nil _ _

@[simp] theorem read_area_nil (tag : Text) : (area tag).read [] = none := tokens?_nil _ _

@[simp] theorem read_value_nil (tag : Text) : (value tag).read [] = none := tokens?_nil _ _

theorem read_cons (p : Zone) (c : Char) (cs : Text) :
    p.read (c :: cs) =
      match p.step c cs with
      | none => none
      | some (ts, q, more) => (q.read (cs.drop more)).map (ts ++ ·) := by
  rw [read, tokens?_cons, step]
  cases Scan.step 0 c cs p.region with
  | fail => rfl
  | advance events region more => simp only [view, tokens?_scanFrom]

/-- Before `rest` the scanner takes `u` and is at `q` then. -/
def Takes (p : Zone) (u rest : Text) (ts : List Token) (q : Zone) : Prop :=
  ∃ c cs, u = c :: cs ∧ p.step c (cs ++ rest) = some (ts, q, cs.length)

theorem Takes.read {p q : Zone} {u rest : Text} {ts : List Token} (h : p.Takes u rest ts q) :
    p.read (u ++ rest) = (q.read rest).map (ts ++ ·) := by
  obtain ⟨c, cs, rfl, hs⟩ := h
  rw [List.cons_append, read_cons, hs]
  simp only [List.drop_left]

end Zone

end Stencil
