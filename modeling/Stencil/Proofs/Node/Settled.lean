import Stencil.Proofs.Event.Reading
import Stencil.Proofs.Node.Spelling

/-!
# Written tokens that are read back

Tokens are `Settled` if nothing runs together when they are written: no text follows a text, no text
that ends in a brace stands before a directive, and no iteration goes over a blank that is written
as another one. What the pen writes for a token stream is read back exactly if the stream is settled
and no blanks are lost at its end (`reread_write`). Otherwise what is read clashes with the stream,
so it is no linear form of the same tree.
-/

namespace Stencil

open Text

namespace Token

/-- Whether the written forms of two tokens do not run together. -/
def separate : Token → Token → Bool
  | .text _, .text _ => false
  | .text v, t => !(t.isDirective && v.getLast? == some '{')
  | _, _ => true

theorem separate_text_iff {v : Text} {t : Token} :
    separate (.text v) t = true ↔
      (∀ w, t ≠ .text w) ∧ (t.isDirective = true → v.getLast? ≠ some '{') := by
  cases t <;> simp [separate, isDirective]

def Settled : List Token → Prop
  | [] => True
  | t :: ts => ¬ t.IsOddBlank ∧ (∀ t' ∈ ts.head?, separate t t' = true) ∧ Settled ts

/-- Only texts run together with what follows. -/
theorem settled_cons {t : Token} {ts : List Token} (hodd : ¬ t.IsOddBlank)
    (ht : ∀ v, t ≠ .text v) : Settled (t :: ts) ↔ Settled ts := by
  have hsep : ∀ t', separate t t' = true := by
    intro t'
    cases t with
    | text v => exact absurd rfl (ht v)
    | _ => rfl
  exact ⟨fun h => h.2.2, fun h => ⟨hodd, fun t' _ => hsep t', h⟩⟩

/-- Tokens that are read as they are written, whatever follows them. -/
def isFirm : Token → Bool
  | .text _ | .openIterator _ _ => false
  | _ => true

theorem settled_firm {t : Token} {ts : List Token} (h : t.isFirm = true) :
    Settled (t :: ts) ↔ Settled ts := by
  refine settled_cons (fun hodd => ?_) (fun v he => ?_)
  · cases t <;> first | exact hodd | cases h
  · subst he
    cases h

theorem Clash.append_left (us : List Token) {ts ts' : List Token} (h : Clash ts ts') :
    Clash (us ++ ts) (us ++ ts') := by
  induction us with
  | nil => exact h
  | cons u us ih => exact .inr ⟨rfl, ih⟩

theorem Clash.of_head {t t' : Token} {ts ts' : List Token} (hne : t' ≠ t)
    (ht : t.beginsBranch = false) : Clash (t :: ts) (t' :: ts') :=
  .inl ⟨hne.symm, ht⟩

end Token

open Token

/-- The text is read to the tokens if they are settled. If they are not, or if blanks are taken away
from the end of the text, it is read to something that clashes with them, or not at all. -/
structure Reread (z : Zone) (u : Text) (ts : List Token) : Prop where
  settled : Settled ts → z.read u = some ts
  unsettled : ∀ x w ts', u = x ++ w → allBlank w = true → ¬ (w = [] ∧ Settled ts) →
    z.read x = some ts' → Clash ts ts'

theorem getLast_concat {c : Char} (hc : Text.isBlank c = false) (u : Text) :
    ∀ d ∈ (u ++ [c]).getLast?, Text.isBlank d = false := by
  rw [List.getLast?_concat]
  rintro d ⟨⟩
  exact hc

namespace Reread

/-- A piece of text that is always read to its tokens. -/
theorem step {z z' : Zone} {u rest : Text} {us ts : List Token} (hne : u ≠ [])
    (hlast : ∀ c ∈ u.getLast?, Text.isBlank c = false)
    (hread : ∀ y w, rest = y ++ w → allBlank w = true →
      z.read (u ++ y) = (z'.read y).map (us ++ ·))
    (hs : Settled (us ++ ts) ↔ Settled ts) (h : Reread z' rest ts) :
    Reread z (u ++ rest) (us ++ ts) where
  settled := by
    intro hset
    rw [hread rest [] (by simp) rfl, h.settled (hs.mp hset)]
    rfl
  unsettled := by
    intro x w ts' he hw hnot hr
    obtain ⟨y, rfl, hrest⟩ := exists_of_append_eq_append_blank hw hne hlast he
    rw [hread y w hrest hw] at hr
    obtain ⟨vs, hy, rfl⟩ := Option.map_eq_some_iff.mp hr
    rw [hs] at hnot
    exact (h.unsettled y w vs hrest hw hnot hy).append_left us

theorem read_nil {z : Zone} {ts : List Token} (h : z.read [] = some ts) : ts = [] := by
  cases z with
  | content =>
    rw [Zone.read_content_nil] at h
    exact (Option.some.inj h).symm
  | area | value => simp at h

theorem isRun_of_append {stop : Char} {x y : Text} (h : IsRun stop (x ++ y)) (hx : x ≠ []) :
    IsRun stop x where
  nonempty := hx
  unstopped := fun hm => h.unstopped (List.mem_append_left y hm)
  literal := fun hi => h.literal (List.infix_append_of_infix_left hi)
  oneLine := fun hm => h.oneLine (List.mem_append_left y hm)

/-- A run of which the end is lost. -/
theorem clash_text {z : Zone} {stop : Char} {x y : Text} {ts ts' : List Token}
    (hz : z.stop? = some stop) (hv : IsRun stop (x ++ y)) (hy : y ≠ [])
    (hr : z.read x = some ts') : Clash (.text (x ++ y) :: ts) ts' := by
  by_cases hx : x = []
  · subst hx
    rw [read_nil hr]
    rfl
  · rw [← List.append_nil x,
      (Zone.takes_text hz (isRun_of_append hv hx) (.inl rfl)).read] at hr
    obtain ⟨us, -, rfl⟩ := Option.map_eq_some_iff.mp hr
    refine .of_head (fun he => hy ?_) rfl
    simpa using Token.text.inj he

/-- A run of text. -/
theorem text {z : Zone} {stop : Char} {v rest : Text} {ts : List Token} (hz : z.stop? = some stop)
    (hv : IsRun stop v) (h : Reread z rest ts)
    (hends : Settled ts →
      (RunEnds stop v rest ↔ ∀ t' ∈ ts.head?, separate (.text v) t' = true)) :
    Reread z (v ++ rest) (.text v :: ts) where
  settled := by
    rintro ⟨-, hsep, hset⟩
    rw [(Zone.takes_text hz hv ((hends hset).mpr hsep)).read, h.settled hset]
    rfl
  unsettled := by
    intro x w ts' he hw hnot hr
    have hkept : ∀ y, x = v ++ y → rest = y ++ w → Clash (.text v :: ts) ts' := by
      rintro y rfl hrest
      by_cases hy : RunEnds stop v y
      · rw [(Zone.takes_text hz hv hy).read] at hr
        obtain ⟨vs, hy', rfl⟩ := Option.map_eq_some_iff.mp hr
        refine .inr ⟨rfl, h.unsettled y w vs hrest hw ?_ hy'⟩
        rintro ⟨rfl, hset⟩
        rw [List.append_nil] at hrest
        exact hnot ⟨rfl, not_false, (hends hset).mp (hrest ▸ hy), hset⟩
      · obtain ⟨t', us, rfl, hne⟩ := Zone.read_text_ne hz hv hy hr
        exact .of_head hne rfl
    rcases List.append_eq_append_iff.mp he with ⟨y, hx, hrest⟩ | ⟨y, hv', hw'⟩
    · exact hkept y hx hrest
    · by_cases hy : y = []
      · subst hy
        exact hkept [] (by simpa using hv'.symm) (by simpa using hw'.symm)
      · subst hv'
        exact clash_text hz hv hy hr

/-- A space before a piece of an attribute area changes nothing. -/
theorem spaced {tag s : Text} {c : Char} {u : Text} {ts : List Token} (hs : s = [] ∨ s = [' '])
    (hc : Text.isBlank c = false) (h : Reread (.area tag) (c :: u) ts) :
    Reread (.area tag) (s ++ c :: u) ts := by
  have hread : ∀ r, (Zone.area tag).read (s ++ c :: r) = (Zone.area tag).read (c :: r) := by
    intro r
    rcases hs with rfl | rfl
    · rfl
    · have hr : ∀ d ∈ (c :: r).head?, Text.isBlank d = false := by
        rintro d ⟨⟩
        exact hc
      rw [(Zone.takes_blank tag hr).read]
      simp
  refine ⟨fun hset => by rw [hread, h.settled hset], fun x w ts' he hw hnot hr => ?_⟩
  rw [List.append_cons] at he
  obtain ⟨y, rfl, rfl⟩ :=
    exists_of_append_eq_append_blank hw (by simp) (getLast_concat hc s) he
  rw [← List.append_cons, hread] at hr
  exact h.unsettled (c :: y) w ts' rfl hw hnot hr

/-- A directive, wherever it stands. -/
theorem directive {z : Zone} {t : Token} {rest : Text} {ts : List Token} (ht : t.IsDirective)
    (h : Reread z rest ts) : Reread z (braced t.body ++ rest) (t :: ts) := by
  have hne : braced t.body ≠ [] := List.cons_ne_nil _ _
  have hlast : ∀ c ∈ (braced t.body).getLast?, Text.isBlank c = false := by
    intro c hc
    rw [← List.nil_append (braced t.body), Node.getLast?_append_braced] at hc
    cases hc
    decide
  have htext : ∀ v, t ≠ .text v := by
    rintro v rfl
    exact ht
  by_cases hodd : t.IsOddBlank
  · refine ⟨fun hset => absurd hodd hset.1, fun x w ts' he hw _ hr => ?_⟩
    obtain ⟨y, rfl, -⟩ := exists_of_append_eq_append_blank hw hne hlast he
    obtain ⟨t', us, rfl, hne'⟩ := Zone.read_oddBlank_ne ht hodd hr
    refine .of_head hne' ?_
    cases t <;> first | rfl | exact hodd.elim
  · show Reread z _ ([t] ++ ts)
    exact .step hne hlast (fun y _ _ _ => (Zone.takes_directive z ht hodd y).read)
      (settled_cons hodd htext) h

end Reread

/-! ## Runs of text -/

theorem not_area_of_stop {z : Zone} {stop : Char} (hz : z.stop? = some stop) :
    ∀ tag, z ≠ .area tag := by
  rintro tag rfl
  cases hz

theorem stop_ne_brace {z : Zone} {stop : Char} (hz : z.stop? = some stop) : stop ≠ '{' := by
  cases z <;> cases hz <;> decide

theorem runEnds_of_separate {z : Zone} {stop : Char} {v : Text} {ts : List Token}
    (hz : z.stop? = some stop) (h : Stream z ts)
    (hs : ∀ t' ∈ ts.head?, separate (.text v) t' = true) : RunEnds stop v (write z.pen ts) := by
  cases h with
  | nil => exact .inl rfl
  | @directive _ t ts ht _ =>
    have hd := isDirective_of_IsDirective ht
    rw [write_directive (not_area_of_stop hz) hd]
    exact .inr (.inr ⟨⟨_, rfl⟩, (separate_text_iff.mp (hs t rfl)).2 hd⟩)
  | text | valueText => exact absurd rfl ((separate_text_iff.mp (hs _ rfl)).1 _)
  | comment | openTag | closeTag | closeValue =>
    cases hz
    exact .inr (.inl rfl)
  | flag | emptyValue | openValue | stop | stopClosed => cases hz

/-- Two texts run together, unless the second one is cut short by what follows it. -/
theorem not_runEnds_text {stop : Char} {v v' rest : Text} (hstop : stop ≠ '{')
    (hv : IsRun stop v') (hr : RunEnds stop v' rest) : ¬ RunEnds stop v (v' ++ rest) := by
  obtain ⟨hne, hunstopped, hliteral, -⟩ := hv
  cases v' with
  | nil => exact absurd rfl hne
  | cons c v' =>
    rintro (h | h | ⟨h, -⟩)
    · cases h
    · exact hunstopped (Option.some.inj h ▸ List.mem_cons_self)
    · obtain ⟨rfl, hnext⟩ := double_prefix_cons.mp h
      cases v' with
      | cons d v' =>
        have hpair : ['{', '{'] <+: '{' :: d :: v' := double_prefix_cons.mpr ⟨rfl, hnext⟩
        exact hliteral hpair.isInfix
      | nil =>
        have hnext : rest.head? = some '{' := hnext
        rcases hr with rfl | hr | ⟨-, hr⟩
        · cases hnext
        · rw [hnext, Option.some.injEq] at hr
          exact hstop hr.symm
        · exact absurd rfl hr

theorem runEnds_write_iff {z : Zone} {stop : Char} {v : Text} {ts : List Token}
    (hz : z.stop? = some stop) (h : Stream z ts) (hset : Settled ts) :
    RunEnds stop v (write z.pen ts) ↔ ∀ t' ∈ ts.head?, separate (.text v) t' = true := by
  refine ⟨fun hr => ?_, runEnds_of_separate hz h⟩
  have hstop := stop_ne_brace hz
  cases h with
  | nil => nofun
  | @directive _ t ts ht _ =>
    rintro _ ⟨⟩
    refine separate_text_iff.mpr ⟨fun w he => ?_, fun hd => ?_⟩
    · subst he
      exact ht
    · rw [write_directive (not_area_of_stop hz) hd] at hr
      rcases hr with hr | hr | ⟨-, hr⟩
      · cases hr
      · exact absurd (Option.some.inj hr).symm hstop
      · exact hr
  | text hv' h' | valueText hv' h' =>
    cases hz
    exact absurd hr (not_runEnds_text hstop hv' (runEnds_of_separate rfl h' hset.2.1))
  | comment | openTag | closeTag | closeValue =>
    rintro _ ⟨⟩
    rfl
  | flag | emptyValue | openValue | stop | stopClosed => cases hz

/-! ## Attribute areas -/

/-- What the pen can write first in an attribute area. -/
def AreaStart (gap : Gap) (u : Text) : Prop :=
  ∃ s c r, u = s ++ c :: r ∧ (s = [] ∨ s = [' ']) ∧ Text.isBlank c = false ∧ c ≠ '=' ∧
    (s = [] → (gap ≠ .never → Scan.isAttributeChar c = false) ∧ (gap = .always → c = '>'))

theorem areaStart_of_append {gap : Gap} {y w : Text} (h : AreaStart gap (y ++ w))
    (hw : allBlank w = true) : AreaStart gap y := by
  obtain ⟨s, c, r, he, hs, hc, hrest⟩ := h
  rw [List.append_cons] at he
  obtain ⟨r', rfl, -⟩ :=
    exists_of_append_eq_append_blank hw (by simp) (getLast_concat hc s) he.symm
  exact ⟨s, c, r', by simp, hs, hc, hrest⟩

theorem Gap.space_cases (gap : Gap) (t : Token) : gap.space t = [] ∨ gap.space t = [' '] := by
  cases gap with
  | always => exact .inr rfl
  | never => exact .inl rfl
  | beforeNode =>
    rw [space]
    split
    · exact .inr rfl
    · exact .inl rfl

theorem Gap.lead_cases (gap : Gap) : gap.lead = [] ∨ gap.lead = [' '] := by
  cases gap <;> simp [lead]

theorem Gap.eq_never_of_lead {gap : Gap} (h : gap.lead = []) : gap = .never := by
  cases gap <;> first | rfl | cases h

theorem areaStart_name (tag : Text) (gap : Gap) {name : Text} (hn : IsAttributeName name)
    (ts : List Token) :
    AreaStart gap (write (.area tag gap) (.openAttribute name :: ts)) := by
  obtain ⟨hne, hchars⟩ := hn
  cases name with
  | nil => exact absurd rfl hne
  | cons c name =>
    have hc := hchars c List.mem_cons_self
    refine ⟨gap.lead, c, name ++ write (.afterName tag) ts, ?_, ?_, isAttributeChar_blank hc,
      ?_, ?_⟩
    · rw [write_openAttribute, List.cons_append]
    · exact gap.lead_cases
    · rintro rfl
      exact absurd hc (by decide)
    · intro hs
      rw [Gap.eq_never_of_lead hs]
      exact ⟨fun h => absurd rfl h, nofun⟩

theorem areaStart_stop {tag : Text} (hv : isVoid tag = false) (gap : Gap) (ts : List Token) :
    AreaStart gap (write (.area tag gap) (.stopAttributes :: ts)) := by
  rw [write_stop hv]
  exact ⟨[], '>', _, rfl, .inl rfl, by decide, by decide, fun _ =>
    ⟨fun _ => by decide, fun _ => rfl⟩⟩

theorem areaStart_write {tag : Text} {ts : List Token} (gap : Gap) (h : Stream (.area tag) ts) :
    AreaStart gap (write (.area tag gap) ts) := by
  cases h with
  | @directive _ t ts ht _ =>
    rw [write_area_directive tag gap (isDirective_of_IsDirective ht)]
    refine ⟨gap.space t, '{', _, rfl, gap.space_cases t, by decide, by decide, fun hs => ?_⟩
    refine ⟨fun _ => by decide, ?_⟩
    rintro rfl
    cases hs
  | flag ha | emptyValue ha | openValue ha => exact areaStart_name tag gap ha _
  | stop hv => exact areaStart_stop hv gap _
  | stopClosed =>
    cases hv : isVoid tag with
    | true =>
      rw [write_stopClosed hv]
      exact ⟨[' '], '/', _, rfl, .inr rfl, by decide, by decide, nofun⟩
    | false => exact areaStart_stop hv gap _

/-! ## Reading back -/

/-- The zone in which a pen is, unless it is within a construct. -/
def Pen.zone? : Pen → Option Zone
  | .content => some .content
  | .area tag _ => some (.area tag)
  | .value tag => some (.value tag)
  | .afterName _ | .closed => none

/-- The tag of a zone has a name that can be read. -/
def Zone.Named : Zone → Prop
  | .content => True
  | .area tag | .value tag => IsTagName tag

theorem head?_append_of_head? {y w : Text} {c : Char} (h : y.head? = some c) :
    (y ++ w).head? = some c := by
  cases y with
  | nil => cases h
  | cons d y => exact h

theorem reread_nil : Reread .content [] [] where
  settled _ := Zone.read_content_nil
  unsettled x w ts' he hw hnot hr := by
    obtain ⟨rfl, rfl⟩ := List.append_eq_nil_iff.mp he.symm
    exact absurd ⟨rfl, trivial⟩ hnot

theorem reread_directive {p : Pen} {z : Zone} {t : Token} {ts : List Token}
    (hp : p.zone? = some z) (ht : t.IsDirective)
    (ih : ∀ {p : Pen}, p.zone? = some z → Reread z (write p ts) ts) :
    Reread z (write p (t :: ts)) (t :: ts) := by
  have hd := isDirective_of_IsDirective ht
  cases p with
  | content =>
    cases hp
    have hw : write .content (t :: ts) = braced t.body ++ write .content ts :=
      write_directive (z := .content) nofun hd ts
    rw [hw]
    exact .directive ht (ih rfl)
  | value tag =>
    cases hp
    have hw : write (.value tag) (t :: ts) = braced t.body ++ write (.value tag) ts :=
      write_directive (z := .value tag) nofun hd ts
    rw [hw]
    exact .directive ht (ih rfl)
  | area tag gap =>
    cases hp
    rw [write_area_directive tag gap hd]
    exact .spaced (gap.space_cases t) (by decide) (.directive ht (ih rfl))
  | afterName | closed => cases hp

theorem reread_openTag {tag : Text} {ts : List Token} (ht : IsTagName tag)
    (h : Stream (.area tag) ts) (ih : Reread (.area tag) (write (.area tag .always) ts) ts) :
    Reread .content (write .content (.openTag tag :: ts)) (.openTag tag :: ts) := by
  show Reread .content (('<' :: tag) ++ write (.area tag .always) ts) ([Token.openTag tag] ++ ts)
  refine .step (List.cons_ne_nil _ _) (fun c hc => ?_) (fun y w he hw => ?_) (settled_firm rfl) ih
  · rcases List.mem_cons.mp (List.mem_of_getLast? hc) with rfl | hm
    · decide
    · exact isTagChar_blank (ht.chars c hm)
  · refine (Zone.takes_openTag ht fun c hc => ?_).read
    have hstart := areaStart_write .always h
    rw [he] at hstart
    obtain ⟨s, c', r, rfl, rfl | rfl, -, -, hs⟩ := areaStart_of_append hstart hw
    · cases hc
      exact .inr ((hs rfl).2 rfl)
    · cases hc
      exact .inl rfl

/-- A name, with what stands behind it at once. -/
theorem reread_name {tag name rest : Text} {z : Zone} {us ts : List Token} (gap : Gap)
    (tail : Text) (hn : IsAttributeName name)
    (htail : ∀ c ∈ tail.getLast?, Text.isBlank c = false)
    (hread : ∀ y w, rest = y ++ w → allBlank w = true →
      (Zone.area tag).read ((name ++ tail) ++ y) = (z.read y).map (us ++ ·))
    (hs : Settled (us ++ ts) ↔ Settled ts) (h : Reread z rest ts) :
    Reread (.area tag) (gap.lead ++ ((name ++ tail) ++ rest)) (us ++ ts) := by
  obtain ⟨hne, hchars⟩ := hn
  cases name with
  | nil => exact absurd rfl hne
  | cons c name =>
    refine .spaced gap.lead_cases (isAttributeChar_blank (hchars c List.mem_cons_self)) ?_
    show Reread (.area tag) (((c :: name) ++ tail) ++ rest) (us ++ ts)
    refine .step (List.cons_ne_nil _ _) (fun d hd => ?_) hread hs h
    rw [List.getLast?_append] at hd
    cases htl : tail.getLast? with
    | none =>
      rw [htl, Option.none_or] at hd
      exact isAttributeChar_blank (hchars d (List.mem_of_getLast? hd))
    | some e =>
      rw [htl, Option.some_or] at hd
      exact htail d (htl ▸ hd)

theorem reread_flag {tag name : Text} {ts : List Token} (gap : Gap) (hn : IsAttributeName name)
    (h : Stream (.area tag) ts)
    (ih : Reread (.area tag) (write (.area tag .beforeNode) ts) ts) :
    Reread (.area tag) (write (.area tag gap) (.openAttribute name :: .closeAttribute :: ts))
      (.openAttribute name :: .closeAttribute :: ts) := by
  have hset : Settled ([Token.openAttribute name, Token.closeAttribute] ++ ts) ↔ Settled ts :=
    (settled_firm (t := .openAttribute name) rfl).trans
      (settled_firm (t := .closeAttribute) rfl)
  have hpiece : Reread (.area tag) (gap.lead ++ ((name ++ []) ++ write (.area tag .beforeNode) ts))
      ([Token.openAttribute name, Token.closeAttribute] ++ ts) := by
    refine reread_name gap [] hn nofun (fun y w he hw => ?_) hset ih
    have hstart := areaStart_write .beforeNode h
    rw [he] at hstart
    obtain ⟨s, c, r, rfl, hs, hc, heq, hfirst⟩ := areaStart_of_append hstart hw
    rw [List.append_nil]
    refine (Zone.takes_flag tag hn ?_ ?_).read
    · rcases hs with rfl | rfl
      · rintro d ⟨⟩
        exact (hfirst rfl).1 nofun
      · rintro d ⟨⟩
        decide
    · have hblank : allBlank s = true := by rcases hs with rfl | rfl <;> decide
      rw [trimStart_blank_append hblank, trimStart_cons_of_not_blank hc]
      exact fun he => heq (Option.some.inj he)
  rw [List.append_nil] at hpiece
  rw [write_openAttribute]
  exact hpiece

theorem reread_emptyValue {tag name : Text} {ts : List Token} (gap : Gap)
    (hn : IsAttributeName name)
    (ih : Reread (.area tag) (write (.area tag .beforeNode) ts) ts) :
    Reread (.area tag)
      (write (.area tag gap) (.openAttribute name :: .text [] :: .closeAttribute :: ts))
      (.openAttribute name :: .text [] :: .closeAttribute :: ts) := by
  have hset : Settled ([Token.openAttribute name, Token.text [], Token.closeAttribute] ++ ts) ↔
      Settled ts := by
    refine (settled_firm (t := .openAttribute name) rfl).trans ?_
    refine Iff.trans ⟨fun h => h.2.2, fun h => ⟨not_false, ?_, h⟩⟩
      (settled_firm (t := .closeAttribute) rfl)
    rintro t ⟨⟩
    rfl
  rw [write_openAttribute]
  have hpiece : Reread (.area tag)
      (gap.lead ++ ((name ++ ['=', '\x22', '\x22']) ++ write (.area tag .beforeNode) ts))
      ([Token.openAttribute name, Token.text [], Token.closeAttribute] ++ ts) := by
    refine reread_name gap _ hn ?_ (fun y w _ _ => ?_) hset ih
    · rintro c ⟨⟩
      decide
    · have hopen := (Zone.takes_openValue tag hn ('\x22' :: y)).read
      rw [show ('\x22' :: y).head? = some '\x22' from rfl, if_pos rfl,
        show '\x22' :: y = ['\x22'] ++ y from rfl, (Zone.takes_closeValue tag y).read,
        Option.map_map] at hopen
      rw [show name ++ ['=', '\x22', '\x22'] ++ y = name ++ ['=', '\x22'] ++ (['\x22'] ++ y) by
        simp, hopen]
      rfl
  rw [List.append_assoc] at hpiece
  exact hpiece

theorem reread_openValue {tag name : Text} {t : Token} {ts : List Token} (gap : Gap)
    (hn : IsAttributeName name) (ht : t ≠ .closeAttribute) (h : Stream (.value tag) (t :: ts))
    (ih : Reread (.value tag) (write (.value tag) (t :: ts)) (t :: ts)) :
    Reread (.area tag) (write (.area tag gap) (.openAttribute name :: t :: ts))
      (.openAttribute name :: t :: ts) := by
  have hquote : (write (.value tag) (t :: ts)).head? ≠ some '\x22' := by
    cases h with
    | directive hd =>
      have hw : write (.value tag) (t :: ts) = braced t.body ++ write (.value tag) ts :=
        write_directive (z := .value tag) nofun (isDirective_of_IsDirective hd) ts
      rw [hw]
      nofun
    | @valueText _ v _ hv =>
      obtain ⟨hne, hunstopped, -, -⟩ := hv
      cases v with
      | nil => exact absurd rfl hne
      | cons c v =>
        intro he
        exact hunstopped (Option.some.inj he ▸ List.mem_cons_self)
    | closeValue => exact absurd rfl ht
  have hpiece : Reread (.area tag)
      (gap.lead ++ ((name ++ ['=', '\x22']) ++ write (.value tag) (t :: ts)))
      ([Token.openAttribute name] ++ t :: ts) := by
    refine reread_name gap _ hn ?_ (fun y w he _ => ?_) (settled_firm rfl) ih
    · rintro c ⟨⟩
      decide
    · have hopen := (Zone.takes_openValue tag hn y).read
      rw [if_neg] at hopen
      · exact hopen
      · intro hy
        rw [he] at hquote
        exact hquote (head?_append_of_head? hy)
  rw [write_openAttribute, write_afterName ht]
  rw [List.append_assoc] at hpiece
  exact hpiece

theorem reread_comment {v : Text} {ts : List Token} (hv : IsCommentText v)
    (ih : Reread .content (write .content ts) ts) :
    Reread .content (write .content (.comment v :: ts)) (.comment v :: ts) := by
  have hlast := getLast_concat (c := '>') (by decide) ("<!--".toList ++ v ++ ['-', '-'])
  rw [List.append_assoc] at hlast
  show Reread .content _ ([Token.comment v] ++ ts)
  exact .step (List.cons_ne_nil _ _) hlast (fun y _ _ _ => (Zone.takes_comment hv y).read)
    (settled_firm rfl) ih

theorem reread_closeTag {tag : Text} {ts : List Token} (ht : IsClosingName tag)
    (ih : Reread .content (write .content ts) ts) :
    Reread .content (write .content (.closeTag tag :: ts)) (.closeTag tag :: ts) := by
  show Reread .content _ ([Token.closeTag tag] ++ ts)
  exact .step (List.cons_ne_nil _ _) (getLast_concat (by decide) _) (fun y _ _ _ => (Zone.takes_closeTag ht y).read)
    (settled_firm rfl) ih

theorem reread_closeValue {tag : Text} {ts : List Token}
    (ih : Reread (.area tag) (write (.area tag .beforeNode) ts) ts) :
    Reread (.value tag) (write (.value tag) (.closeAttribute :: ts)) (.closeAttribute :: ts) := by
  show Reread (.value tag) _ ([Token.closeAttribute] ++ ts)
  exact .step (List.cons_ne_nil _ _) (getLast_concat (by decide) [])
    (fun y _ _ _ => (Zone.takes_closeValue tag y).read) (settled_firm rfl) ih

theorem reread_stop {tag : Text} {ts : List Token} (gap : Gap) (hv : isVoid tag = false)
    (ih : Reread .content (write .content ts) ts) :
    Reread (.area tag) (write (.area tag gap) (.stopAttributes :: ts)) (.stopAttributes :: ts) := by
  rw [write_stop hv]
  show Reread (.area tag) (['>'] ++ _) ([Token.stopAttributes] ++ ts)
  exact .step (List.cons_ne_nil _ _) (getLast_concat (by decide) []) (fun y _ _ _ => (Zone.takes_stop hv y).read)
    (settled_firm rfl) ih

theorem reread_stopClosed {tag : Text} {ts : List Token} (gap : Gap) (ht : IsTagName tag)
    (ih : Reread .content (write .content ts) ts) :
    Reread (.area tag) (write (.area tag gap) (.stopAttributes :: .closeTag tag :: ts))
      (.stopAttributes :: .closeTag tag :: ts) := by
  cases hv : isVoid tag with
  | false => exact reread_stop gap hv (reread_closeTag (ht.isClosingName hv) ih)
  | true =>
    have hset : Settled ([Token.stopAttributes, Token.closeTag tag] ++ ts) ↔ Settled ts :=
      (settled_firm (t := .stopAttributes) rfl).trans
        (settled_firm (t := .closeTag tag) rfl)
    rw [write_stopClosed hv]
    refine .spaced (.inr rfl) (c := '/') (by decide) ?_
    show Reread (.area tag) (['/', '>'] ++ _) ([Token.stopAttributes, Token.closeTag tag] ++ ts)
    exact .step (List.cons_ne_nil _ _) (getLast_concat (by decide) ['/'])
      (fun y _ _ _ => (Zone.takes_stopClosed tag y).read) hset ih

/-- What the pen writes for a stream is read back if it is settled, and else clashes with it. -/
theorem reread_write {z : Zone} {ts : List Token} (h : Stream z ts) (hn : z.Named) {p : Pen}
    (hp : p.zone? = some z) : Reread z (write p ts) ts := by
  induction h generalizing p with
  | directive ht _ ih => exact reread_directive hp ht (ih hn)
  | nil =>
    cases p <;> cases hp
    exact reread_nil
  | text hv h ih =>
    cases p <;> cases hp
    exact .text rfl hv (ih hn rfl) (runEnds_write_iff (z := .content) rfl h)
  | comment hv _ ih =>
    cases p <;> cases hp
    exact reread_comment hv (ih hn rfl)
  | openTag ht h ih =>
    cases p <;> cases hp
    exact reread_openTag ht h (ih ht rfl)
  | closeTag ht _ ih =>
    cases p <;> cases hp
    exact reread_closeTag ht (ih hn rfl)
  | flag ha h ih =>
    cases p <;> cases hp
    exact reread_flag _ ha h (ih hn rfl)
  | emptyValue ha _ ih =>
    cases p <;> cases hp
    exact reread_emptyValue _ ha (ih hn rfl)
  | openValue ha ht h ih =>
    cases p <;> cases hp
    exact reread_openValue _ ha ht h (ih hn rfl)
  | @valueText tag v ts hv h ih =>
    cases p <;> cases hp
    exact .text rfl hv (ih hn rfl) (runEnds_write_iff (z := .value tag) rfl h)
  | closeValue _ ih =>
    cases p <;> cases hp
    exact reread_closeValue (ih hn rfl)
  | stop hv _ ih =>
    cases p <;> cases hp
    exact reread_stop _ hv (ih trivial rfl)
  | stopClosed _ ih =>
    cases p <;> cases hp
    exact reread_stopClosed _ hn (ih trivial rfl)

end Stencil
