import Stencil.Proofs.Builder.Account
import Stencil.Proofs.Builder.FrameStore

/-!
# The records do what the builder does

`FrameStore.Represents` relates a store to a builder: the records on the stack and those that they
continue are its frames, and every slot is the list to which the builder adds the node. Handling an
event keeps this, or both refuse the event with the same error (`Represents.step`), hence handling
any list of events does (`Represents.run`).

So the account that a builder keeps is one that the records keep (`Builder.account_of_run`), though
nothing in their shape makes them: only an element record reads attributes or holds any, only a
conditional has an else branch, the document is at the bottom of the stack, no node is lost, and
what a refused event has met is left as it was.
-/

namespace Stencil

open Node

/-- Whether the node of a construct can stand in an attribute area. -/
def Construct.isAttributeLike : Construct → Bool
  | .element .. => false
  | .attribute _ | .iterator .. | .conditional .. => true

theorem Frame.isAttributeLike_node (f : Frame) :
    f.node.isAttributeLike = f.construct.isAttributeLike := by
  obtain ⟨construct, position, children⟩ := f
  cases construct with
  | conditional test earlier alternate =>
    exact Builder.isAttributeLike_chain test children alternate earlier
  | _ => rfl

theorem Frame.isAttributeLike_add (f : Frame) (n : Node) :
    (f.add n).construct.isAttributeLike = f.construct.isAttributeLike := by
  unfold add
  split
  next hconstruct =>
    rw [hconstruct]
    split <;> rfl
  next hconstruct =>
    rw [hconstruct]
    rfl
  · rfl

namespace FrameStore

open Handling

variable {records records' : Nat → Record} {next i j low bound : Nat} {rest stack : List Nat}
  {root : List Node} {f f' : Frame} {fs : List Frame} {slot : Option Slot} {link : Option Nat}
  {earlier : List (Text × List Node)} {kind : Kind}

/-! ## Stores that stand for builders -/

/-- The record of a frame. -/
def Record.ofFrame (f : Frame) (slot : Option Slot) (chainedFrom : Option Nat) : Record :=
  match f.construct with
  | .element tag reading attributes =>
    { kind := .element, position := f.position, name := tag, children := f.children, attributes,
      readingAttributes := reading, slot, chainedFrom }
  | .attribute name =>
    { kind := .attribute, position := f.position, name, children := f.children, slot, chainedFrom }
  | .iterator iterable binder =>
    { kind := .iterator, position := f.position, name := iterable, item := some binder.item,
      index := binder.index, children := f.children, slot, chainedFrom }
  | .conditional test _ alternate =>
    { kind := .conditional, position := f.position, name := test, children := f.children, alternate,
      slot, chainedFrom }

def Record.document (root : List Node) : Record :=
  { kind := .document, position := 0, children := root }

/-- From record `i` on, the links lead to the conditionals of a chain, all with the same slot and
without an else branch, the last of them at `low`. -/
inductive Chain (records : Nat → Record) (slot : Option Slot) :
    Nat → Option Nat → List (Text × List Node) → Nat → Prop
  | nil {i : Nat} : Chain records slot i none [] i
  | cons {i j low position : Nat} {test : Text} {children : List Node} {link : Option Nat}
      {earlier : List (Text × List Node)} (hj : j < i)
      (hrecord : records j = .ofFrame ⟨.conditional test [] none, position, children⟩ slot link)
      (h : Chain records slot j link earlier low) :
      Chain records slot i (some j) ((test, children) :: earlier) low

/-- The records on the stack and those that they continue are the frames of a builder. Every slot is
the list that takes the node now, in the record below, and the records below were made before. -/
inductive Shows (records : Nat → Record) (root : List Node) : Nat → List Nat → List Frame → Prop
  | document {bound : Nat} (hbound : 0 < bound) (hrecord : records 0 = .document root) :
      Shows records root bound [0] []
  | frame {bound i low below : Nat} {rest : List Nat} {f : Frame} {fs : List Frame}
      {link : Option Nat} (slot : Slot) (hi : i < bound)
      (hslot : slot = ⟨below, (records below).area f.construct.isAttributeLike⟩)
      (hrecord : records i = .ofFrame f (some slot) link)
      (hchain : Chain records (some slot) i link f.earlier low)
      (h : Shows records root low (below :: rest) fs) :
      Shows records root bound (i :: below :: rest) (f :: fs)

def Represents (s : FrameStore) (b : Builder) : Prop :=
  Shows s.records b.root s.next s.stack b.frames

namespace Record

theorem slot_ofFrame (f : Frame) (slot : Option Slot) (link : Option Nat) :
    (ofFrame f slot link).slot = slot := by
  obtain ⟨construct, position, children⟩ := f
  cases construct <;> rfl

theorem chainedFrom_ofFrame (f : Frame) (slot : Option Slot) (link : Option Nat) :
    (ofFrame f slot link).chainedFrom = link := by
  obtain ⟨construct, position, children⟩ := f
  cases construct <;> rfl

theorem label_ofFrame (f : Frame) (slot : Option Slot) (link : Option Nat) :
    (ofFrame f slot link).label = f.label := by
  obtain ⟨construct, position, children⟩ := f
  cases construct <;> rfl

theorem kind_ofFrame_ne (f : Frame) (slot : Option Slot) (link : Option Nat) :
    (ofFrame f slot link).kind ≠ .document := by
  obtain ⟨construct, position, children⟩ := f
  cases construct <;> exact nofun

/-- A record takes a node where its frame does. -/
theorem add_ofFrame (f : Frame) (slot : Option Slot) (link : Option Nat) (n : Node) :
    (ofFrame f slot link).add ((ofFrame f slot link).area n.isAttributeLike) n =
      ofFrame (f.add n) slot link := by
  obtain ⟨construct, position, children⟩ := f
  cases construct with
  | element tag reading attributes =>
    cases reading with
    | false => rfl
    | true =>
      cases hn : n.isAttributeLike with
      | false => simp [ofFrame, area, add, Frame.add, hn]
      | true => simp [ofFrame, area, add, Frame.add, hn]
  | conditional test earlier alternate => cases alternate <;> rfl
  | _ => rfl

end Record

/-! ## Records that a change does not reach -/

theorem Chain.le (h : Chain records slot i link earlier low) : low ≤ i := by
  induction h with
  | nil => exact Nat.le_refl _
  | cons hj _ _ ih => omega

theorem Chain.congr (h : Chain records slot i link earlier low)
    (hsame : ∀ j < i, records' j = records j) : Chain records' slot i link earlier low := by
  induction h with
  | nil => exact .nil
  | cons hj hrecord _ ih =>
    exact .cons hj ((hsame _ hj).trans hrecord) (ih fun k hk => hsame k (by omega))

theorem Shows.head_lt (h : Shows records root bound (i :: rest) fs) : i < bound := by
  cases h with
  | document hbound _ => exact hbound
  | frame _ hi => exact hi

theorem Shows.mono {bound' : Nat} (h : Shows records root bound stack fs) (hle : bound ≤ bound') :
    Shows records root bound' stack fs := by
  cases h with
  | document hbound hrecord => exact .document (by omega) hrecord
  | frame slot hi hslot hrecord hchain h => exact .frame slot (by omega) hslot hrecord hchain h

theorem Shows.congr (h : Shows records root bound stack fs)
    (hsame : ∀ j < bound, records' j = records j) : Shows records' root bound stack fs := by
  induction h with
  | document hbound hrecord => exact .document hbound ((hsame 0 hbound).trans hrecord)
  | frame slot hi hslot hrecord hchain h ih =>
    have hle := hchain.le
    have hbelow := h.head_lt
    refine .frame slot hi ?_ ((hsame _ hi).trans hrecord)
      (hchain.congr fun j hj => hsame j (by omega)) (ih fun j hj => hsame j (by omega))
    rw [hslot, hsame _ (by omega)]

/-! ## The innermost record -/

/-- A change of the innermost record that leaves its kind, its slot and its links is one of the
innermost frame. -/
theorem Shows.top (h : Shows records root bound (i :: rest) (f :: fs)) (g : Record → Record)
    (hg : ∀ slot link, g (.ofFrame f slot link) = .ofFrame f' slot link)
    (hlike : f'.construct.isAttributeLike = f.construct.isAttributeLike)
    (hearlier : f'.earlier = f.earlier) :
    Shows (Function.update records i (g (records i))) root bound (i :: rest) (f' :: fs) := by
  cases h with
  | @frame _ _ low below _ _ _ link slot hi hslot hrecord hchain h =>
    have hle := hchain.le
    have hbelow := h.head_lt
    have hsame : ∀ j < i, Function.update records i (g (records i)) j = records j :=
      fun j hj => Function.update_of_ne (by omega) _ _
    have hchain' : Chain _ (some slot) i link f'.earlier low := hearlier ▸ hchain.congr hsame
    refine .frame slot hi ?_ ?_ hchain' (h.congr fun j hj => hsame j (by omega))
    · rw [hslot, hsame below (by omega), hlike]
    · rw [Function.update_self, hrecord, hg]

/-- The innermost record takes a node as the builder does. -/
theorem Shows.add (h : Shows records root bound (i :: rest) fs) (n : Node) :
    Shows (Function.update records i ((records i).add ((records i).area n.isAttributeLike) n))
      (Builder.add ⟨root, fs⟩ n).root bound (i :: rest) (Builder.add ⟨root, fs⟩ n).frames := by
  cases fs with
  | nil =>
    cases h with
    | document hbound hrecord =>
      refine .document hbound ?_
      rw [Function.update_self, hrecord]
      rfl
  | cons f fs =>
    have harea (slot : Option Slot) (link : Option Nat) :
        (records i).area n.isAttributeLike =
          (Record.ofFrame f slot link).area n.isAttributeLike := by
      cases h with
      | frame _ _ _ hrecord =>
        rw [hrecord]
        obtain ⟨construct, position, children⟩ := f
        cases construct <;> rfl
    refine h.top (·.add ((records i).area n.isAttributeLike) n) (fun slot link => ?_)
      (Frame.isAttributeLike_add f n) (Frame.earlier_add f n)
    rw [harea slot link, Record.add_ofFrame]

/-- A new record goes on top of those that were made before. -/
theorem Shows.push {below : Nat} {slot : Slot} (h : Shows records root low (below :: rest) fs)
    (hslot : slot = ⟨below, (records below).area f.construct.isAttributeLike⟩)
    (hchain : Chain records (some slot) next link f.earlier low) :
    Shows (Function.update records next (.ofFrame f (some slot) link)) root (next + 1)
      (next :: below :: rest) (f :: fs) := by
  have hle := hchain.le
  have hbelow := h.head_lt
  have hsame : ∀ j < next,
      Function.update records next (.ofFrame f (some slot) link) j = records j :=
    fun j hj => Function.update_of_ne (by omega) _ _
  refine .frame slot (Nat.lt_succ_self next) ?_ (Function.update_self ..) (hchain.congr hsame)
    (h.congr fun j hj => hsame j (by omega))
  rw [hsame below (by omega)]
  exact hslot

/-- Once the innermost frame is closed, its node goes where the builder puts it. -/
theorem Shows.leave (h : Shows records root next (i :: rest) (f :: fs))
    (hj : (records j).slot = (records i).slot) :
    ∃ s', (place j f.node).on ⟨records, next, rest⟩ = (.ok (), s') ∧
      s'.Represents (Builder.leave ⟨root, f :: fs⟩ f fs) := by
  cases h with
  | @frame _ _ low _ _ _ _ _ slot hi hslot hrecord hchain h =>
    have hle := hchain.le
    rw [hrecord, Record.slot_ofFrame] at hj
    refine ⟨_, on_place hj f.node, ?_⟩
    rw [hslot, ← Frame.isAttributeLike_node]
    exact (h.add f.node).mono (show low ≤ next by omega)

/-! ## Chains -/

/-- The links lead through the whole chain. -/
theorem Chain.foldl_chain (h : Chain records slot i link earlier low)
    (hlink : (records i).chainedFrom = link) (n : Node) :
    (chain records i).foldl
      (fun n j => Node.conditional (records j).name (records j).children (some [n])) n =
        Frame.chain n earlier := by
  induction h generalizing n with
  | nil =>
    rw [chain_of_none hlink]
    rfl
  | cons hj hrecord _ ih =>
    rw [chain_of_some hlink hj, List.foldl_cons, ih (by rw [hrecord, Record.chainedFrom_ofFrame]),
      hrecord]
    rfl

/-- The first conditional of the chain has the slot of the last. -/
theorem Chain.slot_getLastD (h : Chain records slot i link earlier low)
    (hlink : (records i).chainedFrom = link) (hslot : (records i).slot = slot) :
    (records ((chain records i).getLastD i)).slot = slot := by
  induction h with
  | nil =>
    rw [chain_of_none hlink]
    exact hslot
  | cons hj hrecord _ ih =>
    rw [chain_of_some hlink hj, List.getLastD_cons]
    exact ih (by rw [hrecord, Record.chainedFrom_ofFrame]) (by rw [hrecord, Record.slot_ofFrame])

/-! ## Simulation -/

/-- The store does as the builder does: both handle the event, and the store then stands for the
builder, or both refuse it with the same error, and the store that is left is as stated. -/
inductive Agrees (left : FrameStore → Prop) :
    Except StructureError Builder → Except Trouble Unit × FrameStore → Prop
  | handled {b : Builder} {s : FrameStore} (h : s.Represents b) : Agrees left (.ok b) (.ok (), s)
  | refused {error : StructureError} {s : FrameStore} (h : left s) :
      Agrees left (.error error) (.error (.refused error), s)

namespace Shows

theorem addLeaf (h : Shows records root next stack fs) (n : Node) :
    Agrees (· = ⟨records, next, stack⟩) (.ok (Builder.add ⟨root, fs⟩ n))
      ((FrameStore.addLeaf n n.isAttributeLike).on ⟨records, next, stack⟩) := by
  cases stack with
  | nil => cases h
  | cons i rest =>
    rw [on_addLeaf]
    exact .handled (h.add n)

theorem enter (h : Shows records root next stack fs) (construct : Construct) (p : Nat)
    (hnone : Frame.earlier ⟨construct, p, []⟩ = []) :
    Agrees (· = ⟨records, next, stack⟩) (.ok (Builder.enter ⟨root, fs⟩ construct p))
      ((FrameStore.enter (.ofFrame ⟨construct, p, []⟩ none none) construct.isAttributeLike).on
        ⟨records, next, stack⟩) := by
  cases stack with
  | nil => cases h
  | cons i rest =>
    have hrecord (slot : Option Slot) :
        { Record.ofFrame ⟨construct, p, []⟩ none none with slot := slot } =
          Record.ofFrame ⟨construct, p, []⟩ slot none := by
      cases construct <;> rfl
    rw [on_enter, hrecord]
    exact .handled (h.push rfl (hnone ▸ .nil))

theorem stopAttributes (h : Shows records root next stack fs) (p : Nat) :
    Agrees (· = ⟨records, next, stack⟩) (Builder.step ⟨root, fs⟩ ⟨p, .stopAttributes⟩)
      ((handle ⟨p, .stopAttributes⟩).on ⟨records, next, stack⟩) := by
  have hshows := h
  cases hshows with
  | document _ hrecord =>
    rw [on_stopAttributes, hrecord]
    exact .refused rfl
  | @frame _ i _ _ _ f fs link slot hi hslot hrecord hchain _ =>
    rw [on_stopAttributes, hrecord]
    obtain ⟨construct, position, children⟩ := f
    cases construct with
    | element tag reading attributes =>
      cases reading with
      | false => exact .refused rfl
      | true =>
        have htop : Shows _ root next _
            (⟨.element tag false attributes, position, children⟩ :: fs) :=
          h.top ({ · with readingAttributes := false }) (fun _ _ => rfl) rfl rfl
        exact .handled htop
    | _ => exact .refused rfl

theorem otherwise (h : Shows records root next stack fs) (p : Nat) :
    Agrees (· = ⟨records, next, stack⟩) (Builder.step ⟨root, fs⟩ ⟨p, .otherwise⟩)
      ((handle ⟨p, .otherwise⟩).on ⟨records, next, stack⟩) := by
  have hshows := h
  cases hshows with
  | document _ hrecord =>
    rw [on_otherwise, hrecord]
    exact .refused rfl
  | @frame _ i _ _ _ f fs link slot hi hslot hrecord hchain _ =>
    rw [on_otherwise, hrecord]
    obtain ⟨construct, position, children⟩ := f
    cases construct with
    | conditional test waiting alternate =>
      cases alternate with
      | some branch => exact .refused rfl
      | none =>
        have htop : Shows _ root next _
            (⟨.conditional test waiting (some []), position, children⟩ :: fs) :=
          h.top ({ · with alternate := some [] }) (fun _ _ => rfl) rfl rfl
        exact .handled htop
    | _ => exact .refused rfl

theorem elseIf (h : Shows records root next stack fs) (p : Nat) (test : Text) :
    Agrees (· = ⟨records, next, stack⟩) (Builder.step ⟨root, fs⟩ ⟨p, .elseIf test⟩)
      ((handle ⟨p, .elseIf test⟩).on ⟨records, next, stack⟩) := by
  cases h with
  | document _ hrecord =>
    rw [on_elseIf, hrecord]
    exact .refused rfl
  | @frame _ i _ _ _ f fs link slot hi hslot hrecord hchain h =>
    rw [on_elseIf, hrecord]
    obtain ⟨construct, position, children⟩ := f
    cases construct with
    | conditional first waiting alternate =>
      cases alternate with
      | some branch => exact .refused rfl
      | none =>
        -- The record goes out of the stack as it is, and the new one refers back to it.
        have hchain' : Chain records (some slot) next (some i) ((first, children) :: waiting) _ :=
          .cons hi hrecord hchain
        exact .handled (h.push
          (f := ⟨.conditional test ((first, children) :: waiting) none, p, []⟩) hslot hchain')
    | _ => exact .refused rfl

/-- A record of another kind cannot be closed, for the reason that the builder gives. -/
theorem refuses {k : Nat → Handling Unit} (h : Shows records root next (i :: rest) fs)
    (e : Event) (closing : Closing) (hkind : (records i).kind ≠ kind) :
    Agrees (· = ⟨records, next, i :: rest⟩)
      (.error ⟨Builder.refusal ⟨root, fs⟩ closing, e.position⟩)
      ((close e kind closing >>= k).on ⟨records, next, i :: rest⟩) := by
  have hfault : (if (records i).kind = .document then .nothingOpen closing
      else .stillOpen closing (records i).label) = Builder.refusal ⟨root, fs⟩ closing := by
    cases h with
    | document _ hrecord =>
      rw [hrecord]
      rfl
    | @frame _ _ _ _ _ f _ link slot _ _ hrecord =>
      rw [hrecord, if_neg (Record.kind_ofFrame_ne f (some slot) link), Record.label_ofFrame]
      rfl
  rw [on_bind_error (on_close_of_ne e closing hkind), hfault]
  exact .refused rfl

theorem closes {k : Nat → Handling Unit} (h : Shows records root next (i :: rest) (f :: fs))
    (e : Event) (closing : Closing) (hkind : (records i).kind = kind)
    (hj : (records j).slot = (records i).slot)
    (hk : (k i).on ⟨records, next, rest⟩ = (place j f.node).on ⟨records, next, rest⟩) :
    Agrees (· = ⟨records, next, i :: rest⟩) (.ok (Builder.leave ⟨root, f :: fs⟩ f fs))
      ((close e kind closing >>= k).on ⟨records, next, i :: rest⟩) := by
  obtain ⟨s', hplace, hrepresents⟩ := h.leave hj
  rw [on_bind_ok (on_close_of_eq e closing hkind), hk, hplace]
  exact .handled hrepresents

theorem closeTag (h : Shows records root next stack fs) (p : Nat) (name : Text) :
    Agrees (· = ⟨records, next, stack⟩) (Builder.step ⟨root, fs⟩ ⟨p, .closeTag name⟩)
      ((handle ⟨p, .closeTag name⟩).on ⟨records, next, stack⟩) := by
  have hshows := h
  cases hshows with
  | document _ hrecord =>
    have hkind : (records 0).kind ≠ .element := by rw [hrecord]; rintro ⟨⟩
    rw [on_closeTag, if_neg fun hopen => hkind hopen.1]
    exact h.refuses ⟨p, .closeTag name⟩ (.tag name) hkind
  | @frame _ i _ _ _ f fs link slot hi hslot hrecord hchain _ =>
    obtain ⟨construct, position, children⟩ := f
    rw [on_closeTag]
    cases construct with
    | element tag reading attributes =>
      by_cases hname : tag = name
      · rw [if_neg (by rw [hrecord]; exact fun hne => hne.2 hname)]
        simp only [Builder.step, Builder.handle, if_pos hname]
        refine h.closes ⟨p, .closeTag name⟩ (.tag name) (by rw [hrecord]; rfl) rfl ?_
        rw [on_record, hrecord]
        rfl
      · rw [if_pos (by rw [hrecord]; exact ⟨rfl, hname⟩), hrecord]
        simp only [Builder.step, Builder.handle, if_neg hname]
        exact .refused rfl
    | _ =>
      have hkind : (records i).kind ≠ .element := by rw [hrecord]; rintro ⟨⟩
      rw [if_neg fun hopen => hkind hopen.1]
      exact h.refuses ⟨p, .closeTag name⟩ (.tag name) hkind

theorem closeAttribute (h : Shows records root next stack fs) (p : Nat) :
    Agrees (· = ⟨records, next, stack⟩) (Builder.step ⟨root, fs⟩ ⟨p, .closeAttribute⟩)
      ((handle ⟨p, .closeAttribute⟩).on ⟨records, next, stack⟩) := by
  have hshows := h
  unfold handle Builder.step Builder.handle
  dsimp only
  cases hshows with
  | document _ hrecord =>
    exact h.refuses ⟨p, .closeAttribute⟩ .attributeValue (by rw [hrecord]; rintro ⟨⟩)
  | @frame _ i _ _ _ f fs link slot hi hslot hrecord hchain _ =>
    obtain ⟨construct, position, children⟩ := f
    cases construct with
    | «attribute» name =>
      refine h.closes ⟨p, .closeAttribute⟩ .attributeValue (by rw [hrecord]; rfl) rfl ?_
      rw [on_record, hrecord]
      rfl
    | _ => exact h.refuses ⟨p, .closeAttribute⟩ .attributeValue (by rw [hrecord]; rintro ⟨⟩)

theorem closeIterator (h : Shows records root next stack fs) (p : Nat) :
    Agrees (· = ⟨records, next, stack⟩) (Builder.step ⟨root, fs⟩ ⟨p, .closeIterator⟩)
      ((handle ⟨p, .closeIterator⟩).on ⟨records, next, stack⟩) := by
  have hshows := h
  unfold handle Builder.step Builder.handle
  dsimp only
  cases hshows with
  | document _ hrecord =>
    exact h.refuses ⟨p, .closeIterator⟩ .iteration (by rw [hrecord]; rintro ⟨⟩)
  | @frame _ i _ _ _ f fs link slot hi hslot hrecord hchain _ =>
    obtain ⟨construct, position, children⟩ := f
    cases construct with
    | iterator iterable binder =>
      refine h.closes ⟨p, .closeIterator⟩ .iteration (by rw [hrecord]; rfl) rfl ?_
      rw [on_record, hrecord]
      rfl
    | _ => exact h.refuses ⟨p, .closeIterator⟩ .iteration (by rw [hrecord]; rintro ⟨⟩)

theorem closeConditional (h : Shows records root next stack fs) (p : Nat) :
    Agrees (· = ⟨records, next, stack⟩) (Builder.step ⟨root, fs⟩ ⟨p, .closeConditional⟩)
      ((handle ⟨p, .closeConditional⟩).on ⟨records, next, stack⟩) := by
  have hshows := h
  unfold handle Builder.step Builder.handle
  dsimp only
  cases hshows with
  | document _ hrecord =>
    exact h.refuses ⟨p, .closeConditional⟩ .conditional (by rw [hrecord]; rintro ⟨⟩)
  | @frame _ i _ _ _ f fs link slot hi hslot hrecord hchain _ =>
    obtain ⟨construct, position, children⟩ := f
    cases construct with
    | conditional test waiting alternate =>
      have hlink : (records i).chainedFrom = link := by rw [hrecord, Record.chainedFrom_ofFrame]
      have hslot : (records i).slot = some slot := by rw [hrecord, Record.slot_ofFrame]
      refine h.closes ⟨p, .closeConditional⟩ .conditional (by rw [hrecord]; rfl)
        ((hchain.slot_getLastD hlink hslot).trans hslot.symm) ?_
      rw [on_record, on_get]
      dsimp only
      rw [hchain.foldl_chain hlink, hrecord]
      rfl
    | _ => exact h.refuses ⟨p, .closeConditional⟩ .conditional (by rw [hrecord]; rintro ⟨⟩)

end Shows

/-- One event. -/
theorem Represents.step {s : FrameStore} {b : Builder} (h : s.Represents b) (e : Event) :
    Agrees (· = s) (b.step e) ((handle e).on s) := by
  have hshows : Shows s.records b.root s.next s.stack b.frames := h
  obtain ⟨p, token⟩ := e
  cases token with
  | text value => exact hshows.addLeaf (.text value)
  | comment value => exact hshows.addLeaf (.comment value)
  | encode source => exact hshows.addLeaf (.encoded source)
  | interpolate source => exact hshows.addLeaf (.interpolated source)
  | evaluate code => exact hshows.addLeaf (.evaluated code)
  | openTag name => exact hshows.enter (.element name true []) p rfl
  | openAttribute name => exact hshows.enter (.attribute name) p rfl
  | openIterator iterable binder => exact hshows.enter (.iterator iterable binder) p rfl
  | openConditional test => exact hshows.enter (.conditional test [] none) p rfl
  | stopAttributes => exact hshows.stopAttributes p
  | closeTag name => exact hshows.closeTag p name
  | closeAttribute => exact hshows.closeAttribute p
  | closeIterator => exact hshows.closeIterator p
  | closeConditional => exact hshows.closeConditional p
  | elseIf test => exact hshows.elseIf p test
  | otherwise => exact hshows.otherwise p

theorem represents_fresh : fresh.Represents .empty := .document Nat.one_pos rfl

/-- All events. If one is refused, the store is left as it was after those before it. -/
theorem Represents.run {s : FrameStore} {b : Builder} (h : s.Represents b) (es : List Event) :
    Agrees (fun s' => ∃ before e after b', es = before ++ e :: after ∧
      b.run before = .ok b' ∧ s'.Represents b') (b.run es) ((handleAll es).on s) := by
  induction es generalizing s b with
  | nil => exact .handled h
  | cons e es ih =>
    have hstep := h.step e
    rw [handleAll, Builder.run]
    generalize hb : b.step e = result at hstep
    generalize hs : (handle e).on s = attempt at hstep
    cases hstep with
    | refused hleft =>
      rw [on_bind_error hs]
      exact .refused ⟨[], e, es, b, rfl, rfl, hleft ▸ h⟩
    | @handled b₁ s₁ h₁ =>
      rw [on_bind_ok hs]
      dsimp only
      have hrun := ih h₁
      generalize b₁.run es = result at hrun
      generalize (handleAll es).on s₁ = attempt at hrun
      cases hrun with
      | handled h' => exact .handled h'
      | refused hleft =>
        obtain ⟨before, e', after, b', rfl, hbefore, hb'⟩ := hleft
        refine .refused ⟨e :: before, e', after, b', rfl, ?_, hb'⟩
        rw [Builder.run, hb]
        exact hbefore

/-! ## The account -/

/-- The number of nodes in a record, its own included. -/
def Record.count (r : Record) : Nat :=
  1 + countAll r.attributes + countAll r.children + countBranch r.alternate

/-- The given records and those that they continue. -/
def held (records : Nat → Record) (ids : List Nat) : List Nat :=
  ids.flatMap fun i => i :: chain records i

/-- The nodes in the records of the given numbers. -/
def countRecords (records : Nat → Record) : List Nat → Nat
  | [] => 0
  | i :: is => (records i).count + countRecords records is

theorem countRecords_append (is js : List Nat) :
    countRecords records (is ++ js) = countRecords records is + countRecords records js := by
  induction is with
  | nil => exact (Nat.zero_add _).symm
  | cons i is ih => rw [List.cons_append, countRecords, countRecords, ih, Nat.add_assoc]

/-- What holds of a store after the events. -/
structure Account (es : List Event) (s : FrameStore) : Prop where
  /-- The document is at the bottom of the stack, and nowhere else. -/
  document : ∃ inner, s.stack = inner ++ [0] ∧ (s.records 0).kind = .document ∧
    ∀ i ∈ inner, (s.records i).kind ≠ .document
  /-- Only an element reads attributes or holds any. -/
  attributes : ∀ i ∈ held s.records s.stack,
    (s.records i).readingAttributes = true ∨ (s.records i).attributes ≠ [] →
      (s.records i).kind = .element
  /-- Only a conditional has an else branch. -/
  alternates : ∀ i ∈ held s.records s.stack,
    (s.records i).alternate ≠ none → (s.records i).kind = .conditional
  /-- A conditional that has been continued has none. -/
  chains : ∀ i ∈ s.stack, ∀ j ∈ chain s.records i, (s.records j).alternate = none
  /-- No chain is cut short: every link leads to an older record. -/
  links : ∀ i ∈ held s.records s.stack, ∀ j, (s.records i).chainedFrom = some j → j < i
  /-- No node is lost and none is there twice. -/
  nodes : countAll (s.records 0).children +
    countRecords s.records (held s.records s.stack.dropLast) =
      es.countP fun e => e.token.makesNode
  /-- A refused event leaves the stack and every record as they were. -/
  refusals : ∀ e trouble s', (handle e).on s = (.error trouble, s') → s' = s

theorem Record.kind_of_attributes
    (h : (Record.ofFrame f slot link).readingAttributes = true ∨
      (Record.ofFrame f slot link).attributes ≠ []) :
    (Record.ofFrame f slot link).kind = .element := by
  obtain ⟨construct, position, children⟩ := f
  cases construct with
  | element => rfl
  | _ => simp [Record.ofFrame] at h

theorem Record.kind_of_alternate (h : (Record.ofFrame f slot link).alternate ≠ none) :
    (Record.ofFrame f slot link).kind = .conditional := by
  obtain ⟨construct, position, children⟩ := f
  cases construct with
  | conditional => rfl
  | _ => exact (h rfl).elim

theorem Record.count_ofFrame (f : Frame) (slot : Option Slot) (link : Option Nat) :
    (Record.ofFrame f slot link).count + Frame.countEarlier f.earlier = f.count := by
  obtain ⟨construct, position, children⟩ := f
  cases construct <;> rfl

/-- The records of a chain are conditionals without an else branch, and each is older than the one
that continues it. -/
theorem Chain.mem_chain (h : Chain records slot i link earlier low)
    (hlink : (records i).chainedFrom = link) :
    (∀ j, link = some j → j < i) ∧ ∀ j ∈ chain records i, ∃ test position children link',
      records j = .ofFrame ⟨.conditional test [] none, position, children⟩ slot link' ∧
        ∀ k, link' = some k → k < j := by
  induction h with
  | nil =>
    rw [chain_of_none hlink]
    exact ⟨nofun, nofun⟩
  | @cons i j low position test children link earlier hj hrecord _ ih =>
    obtain ⟨holder, hchain⟩ := ih (by rw [hrecord, Record.chainedFrom_ofFrame])
    refine ⟨fun k hk => Option.some.inj hk ▸ hj, ?_⟩
    rw [chain_of_some hlink hj, List.forall_mem_cons]
    exact ⟨⟨test, position, children, link, hrecord, holder⟩, hchain⟩

theorem Chain.count (h : Chain records slot i link earlier low)
    (hlink : (records i).chainedFrom = link) :
    countRecords records (chain records i) = Frame.countEarlier earlier := by
  induction h with
  | nil =>
    rw [chain_of_none hlink]
    rfl
  | cons hj hrecord _ ih =>
    rw [chain_of_some hlink hj, countRecords,
      ih (by rw [hrecord, Record.chainedFrom_ofFrame]), hrecord]
    rfl

namespace Shows

theorem document_last (h : Shows records root bound stack fs) :
    ∃ inner, stack = inner ++ [0] ∧ records 0 = .document root ∧
      ∀ i ∈ inner, (records i).kind ≠ .document := by
  induction h with
  | document _ hrecord => exact ⟨[], rfl, hrecord, nofun⟩
  | @frame _ i _ below rest f _ link slot _ _ hrecord _ _ ih =>
    obtain ⟨inner, hstack, hroot, hinner⟩ := ih
    refine ⟨i :: inner, by rw [hstack]; rfl, hroot, List.forall_mem_cons.mpr ⟨?_, hinner⟩⟩
    rw [hrecord]
    exact Record.kind_ofFrame_ne f (some slot) link

theorem mem_held (h : Shows records root bound stack fs) (hi : i ∈ held records stack) :
    records i = .document root ∨
      ∃ f slot link, records i = .ofFrame f slot link ∧ ∀ j, link = some j → j < i := by
  induction h with
  | document _ hrecord =>
    rw [held, List.flatMap_singleton, chain_of_none (by rw [hrecord]; rfl)] at hi
    exact .inl (List.mem_singleton.mp hi ▸ hrecord)
  | @frame _ k _ below rest f _ link slot _ _ hrecord hchain _ ih =>
    rw [held, List.flatMap_cons] at hi
    rcases List.mem_append.mp hi with hi | hi
    · obtain ⟨holder, hmem⟩ := hchain.mem_chain (by rw [hrecord, Record.chainedFrom_ofFrame])
      rcases List.mem_cons.mp hi with rfl | hi
      · exact .inr ⟨f, some slot, link, hrecord, holder⟩
      · obtain ⟨test, position, children, link', hrecord', holder'⟩ := hmem i hi
        exact .inr ⟨_, _, link', hrecord', holder'⟩
    · exact ih hi

theorem mem_chain (h : Shows records root bound stack fs) (hi : i ∈ stack)
    (hj : j ∈ chain records i) : (records j).alternate = none := by
  induction h with
  | document _ hrecord =>
    rw [List.mem_singleton.mp hi, chain_of_none (by rw [hrecord]; rfl)] at hj
    cases hj
  | frame slot _ _ hrecord hchain _ ih =>
    rcases List.mem_cons.mp hi with rfl | hi
    · obtain ⟨-, hmem⟩ := hchain.mem_chain (by rw [hrecord, Record.chainedFrom_ofFrame])
      obtain ⟨test, position, children, link, hrecord', -⟩ := hmem j hj
      rw [hrecord']
      rfl
    · exact ih hi

/-- The records hold as many nodes as the builder does. -/
theorem count (h : Shows records root bound stack fs) :
    countAll (records 0).children +
      countRecords records (held records stack.dropLast) = Builder.count ⟨root, fs⟩ := by
  induction h with
  | document _ hrecord =>
    rw [hrecord]
    rfl
  | @frame _ i _ below rest f fs link slot _ _ hrecord hchain _ ih =>
    have hchain := hchain.count (by rw [hrecord, Record.chainedFrom_ofFrame])
    have hrecord := congrArg Record.count hrecord
    have hframe := Record.count_ofFrame f (some slot) link
    rw [List.dropLast_cons_of_ne_nil (List.cons_ne_nil below rest), held, List.flatMap_cons,
      countRecords_append, countRecords, hchain]
    simp only [Builder.count, Frame.countStack, held] at ih ⊢
    omega

end Shows

/-- A store that stands for a builder keeps the account that the builder keeps. -/
theorem Represents.account {s : FrameStore} {b : Builder} {es : List Event} (h : s.Represents b)
    (hnodes : b.count = es.countP fun e => e.token.makesNode) : s.Account es := by
  have hshows : Shows s.records b.root s.next s.stack b.frames := h
  constructor
  · obtain ⟨inner, hstack, hroot, hinner⟩ := hshows.document_last
    exact ⟨inner, hstack, by rw [hroot]; rfl, hinner⟩
  · intro i hi hattributes
    rcases hshows.mem_held hi with hrecord | ⟨f, slot, link, hrecord, -⟩
    · rw [hrecord] at hattributes
      simp [Record.document] at hattributes
    · rw [hrecord] at hattributes ⊢
      exact Record.kind_of_attributes hattributes
  · intro i hi halternate
    rcases hshows.mem_held hi with hrecord | ⟨f, slot, link, hrecord, -⟩
    · rw [hrecord] at halternate
      exact (halternate rfl).elim
    · rw [hrecord] at halternate ⊢
      exact Record.kind_of_alternate halternate
  · exact fun i hi j hj => hshows.mem_chain hi hj
  · intro i hi j hj
    rcases hshows.mem_held hi with hrecord | ⟨f, slot, link, hrecord, holder⟩
    · rw [hrecord] at hj
      cases hj
    · rw [hrecord, Record.chainedFrom_ofFrame] at hj
      exact holder j hj
  · exact hshows.count.trans hnodes
  · intro e trouble s' hrefused
    have hstep := h.step e
    rw [hrefused] at hstep
    generalize b.step e = result at hstep
    cases hstep with
    | refused hleft => exact hleft

end FrameStore

namespace Builder

/-- Records and builder handle the same events, and refuse the same with the same error. Every list
of events that is handled leaves both with an account of it. -/
theorem account_of_run (es : List Event) :
    FrameStore.Agrees (fun s => ∃ before e after b, es = before ++ e :: after ∧
      empty.run before = .ok b ∧ s.Represents b) (empty.run es)
        ((FrameStore.handleAll es).on .fresh) ∧
    (∀ b, empty.run es = .ok b → Account es b) ∧
    ∀ s, (FrameStore.handleAll es).on .fresh = (.ok (), s) → s.Account es := by
  have hagrees := FrameStore.represents_fresh.run es
  refine ⟨hagrees, fun b h => account_run h, fun s h => ?_⟩
  rw [h] at hagrees
  generalize hrun : empty.run es = result at hagrees
  cases hagrees with
  | handled hrepresents => exact hrepresents.account (account_run hrun).nodes

/-- An element left open in the last branch of a chain, where another else-if is then refused. -/
def openChain : List Event :=
  [⟨0, .openConditional ['a']⟩, ⟨8, .text ['A']⟩, ⟨9, .elseIf ['b']⟩, ⟨17, .otherwise⟩,
    ⟨23, .openTag ['p']⟩, ⟨26, .openAttribute ['q']⟩, ⟨29, .closeAttribute⟩]

/-- The builder after `openChain`. -/
def afterOpenChain : Builder :=
  ⟨[], [⟨.element ['p'] true [.attribute ['q'] []], 23, []⟩,
    ⟨.conditional ['b'] [(['a'], [.text ['A']])] (some []), 9, []⟩]⟩

theorem account_of_run_openChain :
    empty.run openChain = .ok afterOpenChain ∧ Account openChain afterOpenChain ∧
      afterOpenChain.count = 5 ∧
      afterOpenChain.step ⟨30, .elseIf ['c']⟩ = .error ⟨.elseIfOutside, 30⟩ ∧
      ((FrameStore.handleAll openChain).on .fresh).1 = .ok () ∧
      ((FrameStore.handleAll openChain).on .fresh).2.stack = [3, 2, 0] ∧
      (((FrameStore.handleAll openChain).on .fresh).2.records 2).chainedFrom = some 1 ∧
      FrameStore.Account openChain ((FrameStore.handleAll openChain).on .fresh).2 := by
  have hhandled : ((FrameStore.handleAll openChain).on .fresh).1 = .ok () := rfl
  exact ⟨rfl, (account_of_run openChain).2.1 _ rfl, rfl, rfl, hhandled, by decide +kernel,
    by decide +kernel, (account_of_run openChain).2.2 _ (Prod.ext hhandled rfl)⟩

end Builder

end Stencil
