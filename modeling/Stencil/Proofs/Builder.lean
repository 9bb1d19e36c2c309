import Stencil.Parse
import Stencil.Proofs.Node.Placed

/-!
# The builder reads linear forms

The builder accepts a list of events exactly if its tokens are a linear form of some tree, and then
it returns that tree, provided that the tokens come from the scanner.

In one direction, the tokens of a placed node take every builder to the builder with that node added
(`Linear.moves`). In the other, `Builder.Reached z b ts` says which tokens `ts` a builder has read
when the scanner is in the zone `z`: a linear form of the nodes already placed, followed by what the
open frames have read. One step keeps it (`Reached.handle`), hence every run does.
-/

namespace Stencil

open Text Node

namespace Builder

/-! ## Events up to positions -/

/-- Whatever their positions, the tokens take one builder to the other. -/
def Moves (b : Builder) (ts : List Token) (b' : Builder) : Prop :=
  ∀ es : List Event, es.map Event.token = ts → b.run es = .ok b'

theorem step_eq_ok {b b' : Builder} {e : Event} :
    b.step e = .ok b' ↔ b.handle e.position e.token = .ok b' := by
  unfold step
  split <;> simp_all

theorem run_cons_eq_ok {b b' : Builder} {e : Event} {es : List Event} :
    b.run (e :: es) = .ok b' ↔
      ∃ b₁, b.handle e.position e.token = .ok b₁ ∧ b₁.run es = .ok b' := by
  rw [run]
  cases hs : b.step e with
  | ok b₁ =>
    rw [step_eq_ok] at hs
    simp [hs]
  | error =>
    constructor
    · intro h
      cases h
    · rintro ⟨b₁, h, _⟩
      rw [← step_eq_ok, hs] at h
      cases h

theorem Moves.nil (b : Builder) : Moves b [] b := by
  intro es hes
  rw [List.map_eq_nil_iff.mp hes]
  rfl

theorem Moves.cons {b b' : Builder} {t : Token} {ts : List Token}
    (h : ∀ p, ∃ b₁, b.handle p t = .ok b₁ ∧ Moves b₁ ts b') : Moves b (t :: ts) b' := by
  intro es hes
  obtain ⟨e, es', rfl, rfl, hes'⟩ := List.map_eq_cons_iff.mp hes
  obtain ⟨b₁, hb, hm⟩ := h e.position
  exact run_cons_eq_ok.mpr ⟨b₁, hb, hm es' hes'⟩

theorem run_append {b b₁ : Builder} {es es' : List Event} (h : b.run es = .ok b₁) :
    b.run (es ++ es') = b₁.run es' := by
  induction es generalizing b with
  | nil =>
    cases h
    rfl
  | cons e es ih =>
    obtain ⟨b₂, hb, hr⟩ := run_cons_eq_ok.mp h
    rw [List.cons_append, run, step_eq_ok.mpr hb]
    exact ih hr

theorem Moves.append {b b₁ b' : Builder} {us vs : List Token} (hu : Moves b us b₁)
    (hv : Moves b₁ vs b') : Moves b (us ++ vs) b' := by
  intro es hes
  obtain ⟨es₁, es₂, rfl, h₁, h₂⟩ := List.map_eq_append_iff.mp hes
  rw [run_append (hu es₁ h₁)]
  exact hv es₂ h₂

theorem Moves.single {b b' : Builder} {t : Token} (h : ∀ p, b.handle p t = .ok b') :
    Moves b [t] b' :=
  .cons fun p => ⟨b', h p, .nil b'⟩

/-! ## Linear forms are accepted -/

/-- The builder with several nodes added. -/
def addAll (b : Builder) (ns : List Node) : Builder := ns.foldl add b

theorem addAll_root (root ns : List Node) : (mk root []).addAll ns = ⟨root ++ ns, []⟩ := by
  induction ns generalizing root with
  | nil => rw [List.append_nil]; rfl
  | cons n ns ih =>
    rw [List.append_cons]
    exact ih (root ++ [n])

/-- A frame collects nodes in a list of its own. -/
theorem addAll_frame {root : List Node} {fs : List Frame} {ns : List Node}
    (f : List Node → Frame) (h : ∀ xs, ∀ n ∈ ns, (f xs).add n = f (xs ++ [n])) (xs : List Node) :
    (mk root (f xs :: fs)).addAll ns = ⟨root, f (xs ++ ns) :: fs⟩ := by
  induction ns generalizing xs with
  | nil => rw [List.append_nil]; rfl
  | cons n ns ih =>
    rw [List.append_cons, ← ih (fun xs m hm => h xs m (List.mem_cons_of_mem n hm)),
      ← h xs n List.mem_cons_self]
    rfl

/-- A frame collects what is read while it is the innermost one. -/
theorem Moves.collect {ns : List Node} {us : List Token} (root : List Node) (fs : List Frame)
    (f : List Node → Frame) (hf : ∀ xs, ∀ n ∈ ns, (f xs).add n = f (xs ++ [n]))
    (h : ∀ b, Moves b us (b.addAll ns)) : Moves ⟨root, f [] :: fs⟩ us ⟨root, f ns :: fs⟩ := by
  have hm := h ⟨root, f [] :: fs⟩
  rw [addAll_frame f hf] at hm
  exact hm

theorem add_reading (tag : Text) (p : Nat) (as : List Node) {n : Node}
    (h : n.isAttributeLike = true) :
    Frame.add ⟨.element tag true as, p, []⟩ n = ⟨.element tag true (as ++ [n]), p, []⟩ := by
  simp only [Frame.add, h, if_true]

theorem isAttributeLike_of_placed {tag : Text} {ns : List Node} (h : PlacedAll (.area tag) ns) :
    ∀ n ∈ ns, n.isAttributeLike = true := by
  induction ns with
  | nil => simp
  | cons n ns ih =>
    intro m hm
    rcases List.mem_cons.mp hm with rfl | hm
    · cases m with
      | text | document | foreign => exact h.1.elim
      | comment | element => cases h.1.1
      | _ => rfl
    · exact ih h.2 m hm

end Builder

open Builder

namespace Node

theorem LinearAll.moves_text {value : Text} {us : List Token} :
    LinearAll [.text value] us → ∀ b : Builder, Moves b us (b.addAll [.text value])
  | .cons (.text _) .nil, _ => .single fun _ => rfl

mutual

theorem Linear.moves {z : Zone} {n : Node} {us : List Token} :
    Linear n us → Placed z n → ∀ b : Builder, Moves b us (b.add n)
  | .text _, _, _ | .comment _, _, _ | .encoded _, _, _ | .interpolated _, _, _
  | .evaluated _, _, _ => .single fun _ => rfl
  | @Linear.attribute name parts us hp, h, b => by
    refine .cons fun p => ⟨_, rfl, ?_⟩
    have hparts : ∀ b : Builder, Moves b us (b.addAll parts) := by
      cases z with
      | content | value => exact h.elim
      | area tag =>
        rcases h.2 with rfl | h
        · exact hp.moves_text
        · exact LinearAll.moves hp h
    exact (Moves.collect _ _ (fun cs => ⟨.attribute name, p, cs⟩) (fun _ _ _ => rfl) hparts).append
      (.single fun _ => rfl)
  | @Linear.element tag attributes children us vs ha hc, h, b => by
    refine .cons fun p => ⟨_, rfl, ?_⟩
    obtain ⟨-, -, hattributes, hchildren, -⟩ := h
    have harea := Moves.collect b.root b.frames
      (fun as => ⟨.element tag true as, p, []⟩)
      (fun as n hn => add_reading tag p as (isAttributeLike_of_placed hattributes n hn))
      (LinearAll.moves ha hattributes)
    have hbody := Moves.collect b.root b.frames
      (fun cs => ⟨.element tag false attributes, p, cs⟩) (fun _ _ _ => rfl)
      (LinearAll.moves hc hchildren)
    refine harea.append (.cons fun _ => ⟨_, rfl, hbody.append (.single fun _ => ?_)⟩)
    exact if_pos rfl
  | @Linear.iterator iterable binder children us hc, h, b => by
    refine .cons fun p => ⟨_, rfl, ?_⟩
    exact (Moves.collect _ _ (fun cs => ⟨.iterator iterable binder, p, cs⟩) (fun _ _ _ => rfl)
      (LinearAll.moves hc h.2)).append (.single fun _ => rfl)
  | @Linear.conditional test children alternate us vs hc ha, h, b => by
    refine .cons fun p => ⟨_, rfl, ?_⟩
    exact (Moves.collect _ _ (fun cs => ⟨.conditional test [] none, p, cs⟩) (fun _ _ _ => rfl)
      (LinearAll.moves hc h.2.1)).append
      (LinearBranch.moves ha h.2.2 test [] p children b.root b.frames)

theorem LinearAll.moves {z : Zone} {ns : List Node} {us : List Token} :
    LinearAll ns us → PlacedAll z ns → ∀ b : Builder, Moves b us (b.addAll ns)
  | .nil, _, b => .nil b
  | .cons hn hs, h, b => (Linear.moves hn h.1 b).append (LinearAll.moves hs h.2 (b.add _))

/-- After an else-if the branches before it wait in the frame; closing the chain puts them around
the last one. -/
theorem LinearBranch.moves {z : Zone} {alternate : Option (List Node)} {us : List Token} :
    LinearBranch alternate us → PlacedBranch z alternate →
      ∀ (test : Text) (earlier : List (Text × List Node)) (p : Nat) (children root : List Node)
        (fs : List Frame),
        Moves ⟨root, ⟨.conditional test earlier none, p, children⟩ :: fs⟩
          (us ++ [.closeConditional])
          ((Builder.mk root fs).add (Frame.chain (.conditional test children alternate) earlier))
  | .absent, _, _, _, _, _, _, _ => .single fun _ => rfl
  | @LinearBranch.otherwise ns us hs, h, test, earlier, p, children, root, fs => by
    refine .cons fun _ => ⟨_, rfl, ?_⟩
    exact (Moves.collect _ _ (fun as => ⟨.conditional test earlier (some as), p, children⟩)
      (fun _ _ _ => rfl) (LinearAll.moves hs h)).append (.single fun _ => rfl)
  | @LinearBranch.elseIf second cs alternate us vs hc ha, h, test, earlier, p, children, root,
      fs => by
    rw [List.cons_append, List.append_assoc]
    refine .cons fun q => ⟨_, rfl, ?_⟩
    obtain ⟨⟨-, hchildren, halternate⟩, -⟩ := h
    exact (Moves.collect _ _
      (fun cs => ⟨.conditional second ((test, children) :: earlier) none, q, cs⟩)
      (fun _ _ _ => rfl) (LinearAll.moves hc hchildren)).append
      (LinearBranch.moves ha halternate second _ q cs root fs)

end

end Node

/-! ## Zones along a stream -/

namespace Zone

/-- The zone after a token, if the token can stand in the zone. -/
def after : Zone → Token → Option Zone
  | .content, .openTag tag => some (.area tag)
  | .content, .closeTag _ | .content, .text _ | .content, .comment _ => some .content
  | .area tag, .openAttribute _ => some (.value tag)
  | .area _, .stopAttributes => some .content
  | .value tag, .closeAttribute => some (.area tag)
  | .value tag, .text _ => some (.value tag)
  | z, t => if t.isDirective then some z else none

/-- The tokens can stand one after the other from the zone on. -/
def Admits : Zone → List Token → Prop
  | _, [] => True
  | z, t :: ts => ∃ z', z.after t = some z' ∧ z'.Admits ts

theorem after_directive (z : Zone) {t : Token} (h : t.isDirective = true) : z.after t = some z := by
  cases t <;> first | (cases z <;> rfl) | cases h

theorem admits_of_stream {z : Zone} {ts : List Token} (h : Stream z ts) : z.Admits ts := by
  induction h with
  | nil => exact trivial
  | directive ht _ ih => exact ⟨_, after_directive _ (Token.isDirective_of_IsDirective ht), ih⟩
  | flag _ _ ih => exact ⟨_, rfl, _, rfl, ih⟩
  | emptyValue _ _ ih => exact ⟨_, rfl, _, rfl, _, rfl, ih⟩
  | stopClosed _ ih => exact ⟨_, rfl, _, rfl, ih⟩
  | _ => exact ⟨_, rfl, by assumption⟩

end Zone

namespace Builder

/-! ## What a builder has read -/

/-- The tokens read for the branches of an open conditional before its else. -/
inductive Branches : Text → List Node → List (Text × List Node) → List Token → Prop where
  | first {test : Text} {cs : List Node} {us : List Token} (h : LinearAll cs us) :
      Branches test cs [] (.openConditional test :: us)
  | next {before test : Text} {bs cs : List Node} {earlier : List (Text × List Node)}
      {us vs : List Token} (hb : Branches before bs earlier us) (h : LinearAll cs vs) :
      Branches test cs ((before, bs) :: earlier) (us ++ .elseIf test :: vs)

theorem Branches.add {test : Text} {cs : List Node} {earlier : List (Text × List Node)} {n : Node}
    {us vs : List Token} (h : Branches test cs earlier us) (hn : Linear n vs) :
    Branches test (cs ++ [n]) earlier (us ++ vs) := by
  cases h with
  | first h => exact .first (h.snoc hn)
  | next hb h =>
    rw [List.append_assoc, List.cons_append]
    exact .next hb (h.snoc hn)

theorem Branches.close {test : Text} {cs : List Node} {earlier : List (Text × List Node)}
    {alternate : Option (List Node)} {us vs : List Token} (h : Branches test cs earlier us)
    (ha : LinearBranch alternate vs) :
    Linear (Frame.chain (.conditional test cs alternate) earlier)
      (us ++ (vs ++ [.closeConditional])) := by
  induction h generalizing alternate vs with
  | first h => exact .conditional h ha
  | @next _ test _ cs _ _ _ _ h ih =>
    have hbranch : LinearBranch (some [.conditional test cs alternate]) _ := .elseIf h ha
    have hc := ih hbranch
    rw [List.cons_append, List.append_assoc] at hc
    rw [List.append_assoc, List.cons_append]
    exact hc

/-- The tokens read for the open frames, when the scanner is in the zone. An attribute stands in a
tag that is still open, and so does nothing else but directives. -/
inductive Pending : Zone → List Frame → List Token → Prop where
  | nil : Pending .content [] []
  | area {tag : Text} {as : List Node} {p : Nat} {fs : List Frame} {us vs : List Token}
      (hf : Pending .content fs us) (ha : LinearAll as vs) :
      Pending (.area tag) (⟨.element tag true as, p, []⟩ :: fs) (us ++ .openTag tag :: vs)
  | body {tag : Text} {as cs : List Node} {p : Nat} {fs : List Frame} {us vs ws : List Token}
      (hf : Pending .content fs us) (ha : LinearAll as vs) (hc : LinearAll cs ws) :
      Pending .content (⟨.element tag false as, p, cs⟩ :: fs)
        (us ++ .openTag tag :: (vs ++ .stopAttributes :: ws))
  | value {tag name : Text} {ps : List Node} {p : Nat} {fs : List Frame} {us vs : List Token}
      (hf : Pending (.area tag) fs us) (hp : LinearAll ps vs) :
      Pending (.value tag) (⟨.attribute name, p, ps⟩ :: fs) (us ++ .openAttribute name :: vs)
  | iterator {z : Zone} {iterable : Text} {binder : Binder} {cs : List Node} {p : Nat}
      {fs : List Frame} {us vs : List Token} (hf : Pending z fs us) (hc : LinearAll cs vs) :
      Pending z (⟨.iterator iterable binder, p, cs⟩ :: fs)
        (us ++ .openIterator iterable binder :: vs)
  | branch {z : Zone} {test : Text} {earlier : List (Text × List Node)} {cs : List Node} {p : Nat}
      {fs : List Frame} {us vs : List Token} (hf : Pending z fs us)
      (hb : Branches test cs earlier vs) :
      Pending z (⟨.conditional test earlier none, p, cs⟩ :: fs) (us ++ vs)
  | otherwise {z : Zone} {test : Text} {earlier : List (Text × List Node)} {cs as : List Node}
      {p : Nat} {fs : List Frame} {us vs ws : List Token} (hf : Pending z fs us)
      (hb : Branches test cs earlier vs) (ha : LinearAll as ws) :
      Pending z (⟨.conditional test earlier (some as), p, cs⟩ :: fs)
        (us ++ (vs ++ .otherwise :: ws))

theorem Pending.add {z : Zone} {f : Frame} {fs : List Frame} {n : Node} {us vs : List Token}
    (h : Pending z (f :: fs) us) (hn : Linear n vs)
    (ha : ∀ tag, z = .area tag → n.isAttributeLike = true) :
    Pending z (f.add n :: fs) (us ++ vs) := by
  cases h with
  | area hf hs =>
    rw [add_reading _ _ _ (ha _ rfl), List.append_assoc, List.cons_append]
    exact .area hf (hs.snoc hn)
  | body hf hs hc =>
    simp only [List.append_assoc, List.cons_append]
    exact .body hf hs (hc.snoc hn)
  | value hf hp =>
    rw [List.append_assoc, List.cons_append]
    exact .value hf (hp.snoc hn)
  | iterator hf hc =>
    rw [List.append_assoc, List.cons_append]
    exact .iterator hf (hc.snoc hn)
  | branch hf hb =>
    rw [List.append_assoc]
    exact .branch hf (hb.add hn)
  | otherwise hf hb hs =>
    simp only [List.append_assoc, List.cons_append]
    exact .otherwise hf hb (hs.snoc hn)

/-- The builder has read the tokens when the scanner is in the zone. -/
def Reached (z : Zone) (b : Builder) (ts : List Token) : Prop :=
  ∃ us vs, LinearAll b.root us ∧ Pending z b.frames vs ∧ ts = us ++ vs

theorem Reached.add {z : Zone} {b : Builder} {n : Node} {ts us : List Token} (h : Reached z b ts)
    (hn : Linear n us) (ha : ∀ tag, z = .area tag → n.isAttributeLike = true) :
    Reached z (b.add n) (ts ++ us) := by
  obtain ⟨rs, ps, hr, hp, rfl⟩ := h
  obtain ⟨root, frames⟩ := b
  cases frames with
  | nil =>
    cases hp
    refine ⟨rs ++ us, [], hr.snoc hn, .nil, ?_⟩
    simp
  | cons f fs => exact ⟨rs, ps ++ us, hr, hp.add hn ha, List.append_assoc rs ps us⟩

/-- Opening a construct. -/
theorem Reached.enter {z z' : Zone} {b : Builder} {c : Construct} {p : Nat} {t : Token}
    {ts : List Token} (h : Reached z b ts)
    (hc : ∀ {us}, Pending z b.frames us → Pending z' (⟨c, p, []⟩ :: b.frames) (us ++ [t])) :
    Reached z' (b.enter c p) (ts ++ [t]) := by
  obtain ⟨rs, ps, hr, hp, rfl⟩ := h
  exact ⟨rs, ps ++ [t], hr, hc hp, List.append_assoc rs ps [t]⟩

/-- Closing the innermost construct. -/
theorem Reached.leave {z z' : Zone} {b : Builder} {f : Frame} {fs : List Frame} {t : Token}
    {ts : List Token} (h : Reached z b ts) (hfs : b.frames = f :: fs)
    (hc : ∀ {us}, Pending z (f :: fs) us →
      ∃ vs ws, us ++ [t] = vs ++ ws ∧ Pending z' fs vs ∧ Linear f.node ws)
    (ha : ∀ tag, z' = .area tag → f.node.isAttributeLike = true) :
    Reached z' (b.leave f fs) (ts ++ [t]) := by
  obtain ⟨rs, ps, hr, hp, rfl⟩ := h
  rw [hfs] at hp
  obtain ⟨vs, ws, he, hp', hn⟩ := hc hp
  have hopen : Reached z' { b with frames := fs } (rs ++ vs) := ⟨rs, vs, hr, hp', rfl⟩
  rw [List.append_assoc, he, ← List.append_assoc]
  exact hopen.add hn ha

/-- Changing the innermost frame. -/
theorem Reached.change {z z' : Zone} {b : Builder} {f f' : Frame} {fs : List Frame} {t : Token}
    {ts : List Token} (h : Reached z b ts) (hfs : b.frames = f :: fs)
    (hc : ∀ {us}, Pending z (f :: fs) us → Pending z' (f' :: fs) (us ++ [t])) :
    Reached z' { b with frames := f' :: fs } (ts ++ [t]) := by
  obtain ⟨rs, ps, hr, hp, rfl⟩ := h
  rw [hfs] at hp
  exact ⟨rs, ps ++ [t], hr, hc hp, List.append_assoc rs ps [t]⟩

theorem isAttributeLike_chain (test : Text) (cs : List Node) (alternate : Option (List Node))
    (earlier : List (Text × List Node)) :
    (Frame.chain (.conditional test cs alternate) earlier).isAttributeLike = true := by
  induction earlier generalizing test cs alternate with
  | nil => rfl
  | cons e earlier ih => exact ih e.1 e.2 (some [.conditional test cs alternate])

/-- A directive is a leaf, or opens, continues or closes an iteration or a conditional. -/
theorem Reached.directive {z : Zone} {b b' : Builder} {t : Token} {p : Nat} {ts : List Token}
    (h : Reached z b ts) (ht : t.isDirective = true) (hs : b.handle p t = .ok b') :
    Reached z b' (ts ++ [t]) := by
  cases t with
  | encode source =>
    cases hs
    exact h.add (.encoded source) fun _ _ => rfl
  | interpolate source =>
    cases hs
    exact h.add (.interpolated source) fun _ _ => rfl
  | evaluate code =>
    cases hs
    exact h.add (.evaluated code) fun _ _ => rfl
  | openIterator iterable binder =>
    cases hs
    exact h.enter fun hp => .iterator hp .nil
  | openConditional test =>
    cases hs
    exact h.enter fun hp => .branch hp (.first .nil)
  | elseIf test =>
    simp only [Builder.handle] at hs
    split at hs
    · cases hs
    · next hfs =>
      cases hs
      refine h.change hfs fun hp => ?_
      cases hp with
      | branch hf hb =>
        rw [List.append_assoc]
        exact .branch hf (.next hb .nil)
    · cases hs
  | otherwise =>
    simp only [Builder.handle] at hs
    split at hs
    · cases hs
    · next hfs =>
      cases hs
      refine h.change hfs fun hp => ?_
      cases hp with
      | branch hf hb =>
        rw [List.append_assoc]
        exact .otherwise hf hb .nil
    · cases hs
  | closeIterator =>
    simp only [Builder.handle] at hs
    split at hs
    · next hfs =>
      cases hs
      refine h.leave hfs (fun hp => ?_) fun _ _ => rfl
      cases hp with
      | iterator hf hc =>
        refine ⟨_, _, ?_, hf, .iterator hc⟩
        rw [List.append_assoc, List.cons_append]
    · cases hs
  | closeConditional =>
    simp only [Builder.handle] at hs
    split at hs
    · next hfs =>
      cases hs
      refine h.leave hfs (fun hp => ?_) fun _ _ => isAttributeLike_chain ..
      cases hp with
      | branch hf hb =>
        refine ⟨_, _, ?_, hf, hb.close .absent⟩
        rw [List.append_assoc, List.nil_append]
      | otherwise hf hb ha =>
        refine ⟨_, _, ?_, hf, hb.close (.otherwise ha)⟩
        simp only [List.append_assoc, List.cons_append]
    · cases hs
  | _ => cases ht

/-- Markup changes the zone, and the stack with it. -/
theorem Reached.markup {z z' : Zone} {b b' : Builder} {t : Token} {p : Nat} {ts : List Token}
    (h : Reached z b ts) (ht : t.isDirective = false) (hz : z.after t = some z')
    (hs : b.handle p t = .ok b') : Reached z' b' (ts ++ [t]) := by
  cases t with
  | text value =>
    cases z with
    | area => cases hz
    | _ =>
      cases hz
      cases hs
      exact h.add (.text value) nofun
  | comment value =>
    cases z with
    | content =>
      cases hz
      cases hs
      exact h.add (.comment value) nofun
    | _ => cases hz
  | openTag name =>
    cases z with
    | content =>
      cases hz
      cases hs
      exact h.enter fun hp => .area hp .nil
    | _ => cases hz
  | openAttribute name =>
    cases z with
    | area tag =>
      cases hz
      cases hs
      exact h.enter fun hp => .value hp .nil
    | _ => cases hz
  | stopAttributes =>
    cases z with
    | area tag =>
      cases hz
      simp only [Builder.handle] at hs
      split at hs
      · next hfs =>
        cases hs
        refine h.change hfs fun hp => ?_
        cases hp with
        | area hf ha =>
          rw [List.append_assoc, List.cons_append]
          exact .body hf ha .nil
      · cases hs
    | _ => cases hz
  | closeTag name =>
    cases z with
    | content =>
      cases hz
      simp only [Builder.handle] at hs
      split at hs
      · next hfs =>
        split at hs
        · next htag =>
          cases hs
          subst htag
          refine h.leave hfs (fun hp => ?_) nofun
          cases hp with
          | body hf ha hc =>
            refine ⟨_, _, ?_, hf, .element ha hc⟩
            simp only [List.append_assoc, List.cons_append]
        · cases hs
      · cases hs
    | _ => cases hz
  | closeAttribute =>
    cases z with
    | value tag =>
      cases hz
      simp only [Builder.handle] at hs
      split at hs
      · next hfs =>
        cases hs
        refine h.leave hfs (fun hp => ?_) fun _ _ => rfl
        cases hp with
        | value hf hv =>
          refine ⟨_, _, ?_, hf, .attribute hv⟩
          rw [List.append_assoc, List.cons_append]
      · cases hs
    | _ => cases hz
  | _ => cases ht

theorem Reached.handle {z z' : Zone} {b b' : Builder} {t : Token} {p : Nat} {ts : List Token}
    (h : Reached z b ts) (hz : z.after t = some z') (hs : b.handle p t = .ok b') :
    Reached z' b' (ts ++ [t]) := by
  cases ht : t.isDirective with
  | true =>
    rw [Zone.after_directive z ht] at hz
    cases hz
    exact h.directive ht hs
  | false => exact h.markup ht hz hs

theorem Reached.run {z : Zone} {b b' : Builder} {ts : List Token} {es : List Event}
    (h : Reached z b ts) (hz : z.Admits (es.map Event.token)) (hr : b.run es = .ok b') :
    ∃ z', Reached z' b' (ts ++ es.map Event.token) := by
  induction es generalizing z b ts with
  | nil =>
    cases hr
    rw [List.map_nil, List.append_nil]
    exact ⟨z, h⟩
  | cons e es ih =>
    obtain ⟨b₁, hb, hr⟩ := run_cons_eq_ok.mp hr
    obtain ⟨z₁, hz₁, hz⟩ := hz
    have hrest := ih (h.handle hz₁ hb) hz hr
    rw [List.append_assoc] at hrest
    exact hrest

theorem reached_empty : Reached .content empty [] := ⟨[], [], .nil, .nil, rfl⟩

/-- A run over a token stream leaves nothing open exactly if it has read a linear form of the
document. -/
theorem run_eq_ok_iff {es : List Event} {d : Document}
    (h : Stream .content (es.map Event.token)) :
    empty.run es = .ok ⟨d, []⟩ ↔ LinearAll d (es.map Event.token) := by
  constructor
  · intro hr
    obtain ⟨z, us, vs, hroot, hp, he⟩ := reached_empty.run (Zone.admits_of_stream h) hr
    cases hp
    rw [List.nil_append, List.append_nil] at he
    exact he ▸ hroot
  · intro hl
    rw [← List.append_nil (es.map Event.token)] at h
    have hm := hl.moves (hl.placed h).1 empty es rfl
    rw [empty, addAll_root, List.nil_append] at hm
    exact hm

end Builder

end Stencil
