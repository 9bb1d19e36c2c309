import Stencil.Proofs.Lower.Room
import Stencil.Proofs.Node.Site

/-!
# What values are refused

Lowering gives something exactly if every node is allowed where it stands (`Lower.Allowed`).
Otherwise it refuses the template, because of a construct or because of a style attribute: no other
fault arises from nodes that can be written with the room there is. This holds of template literals
(`segments_settles`) and of style objects (`style_settles`).
-/

namespace Stencil

namespace Node

/-! ## Nodes that can be written -/

def Writable (room : Nat) (n : Node) : Prop := fits room n = true ∧ hasForeign n = false

def WritableAll (room : Nat) (ns : List Node) : Prop :=
  allFit room ns = true ∧ anyForeign ns = false

def WritableBranch (room : Nat) (ns : Option (List Node)) : Prop :=
  branchFits room ns = true ∧ branchForeign ns = false

variable {room more : Nat} {n : Node} {ns : List Node}

theorem writableAll_cons : WritableAll room (n :: ns) ↔ Writable room n ∧ WritableAll room ns := by
  simp only [WritableAll, Writable, allFit, anyForeign, Bool.and_eq_true, Bool.or_eq_false_iff]
  exact and_and_and_comm

theorem writableAll_iff : WritableAll room ns ↔ ∀ n ∈ ns, Writable room n := by
  induction ns with
  | nil => simp [WritableAll, allFit, anyForeign]
  | cons n ns ih => rw [writableAll_cons, ih, List.forall_mem_cons]

theorem Writable.all (h : Writable room n) : WritableAll room [n] :=
  writableAll_cons.mpr ⟨h, rfl, rfl⟩

theorem WritableAll.mono (h : WritableAll room ns) (hroom : room ≤ more) : WritableAll more ns :=
  ⟨allFit_mono ns hroom h.1, h.2⟩

theorem WritableBranch.mono {ns : Option (List Node)} (h : WritableBranch room ns)
    (hroom : room ≤ more) : WritableBranch more ns :=
  ⟨branchFits_mono ns hroom h.1, h.2⟩

theorem writable_attribute {name : Text} {parts : List Node} :
    Writable room (.attribute name parts) ↔ WritableAll room parts := by
  simp only [Writable, WritableAll, fits, hasForeign]

/-- An element has a level of its own. -/
theorem writable_element {tag : Text} {attributes children : List Node}
    (h : Writable room (.element tag attributes children)) :
    ∃ less, room = less + 1 ∧ WritableAll less attributes ∧ WritableAll less children := by
  cases room with
  | zero => cases h.1
  | succ less =>
    simp only [Writable, fits, hasForeign, Bool.and_eq_true, Bool.or_eq_false_iff] at h
    exact ⟨less, rfl, ⟨h.1.1, h.2.1⟩, h.1.2, h.2.2⟩

theorem writable_iterator {iterable : Text} {binder : Binder} {children : List Node}
    (h : Writable room (.iterator iterable binder children)) :
    ∃ less, room = less + 1 ∧ WritableAll less children := by
  cases room with
  | zero => cases h.1
  | succ less => exact ⟨less, rfl, h⟩

theorem writable_conditional_succ {test : Text} {children : List Node}
    {alternate : Option (List Node)} :
    Writable (room + 1) (.conditional test children alternate) ↔
      WritableAll room children ∧ WritableBranch room alternate := by
  simp only [Writable, WritableAll, WritableBranch, fits, hasForeign, Bool.and_eq_true,
    Bool.or_eq_false_iff]
  exact and_and_and_comm

theorem writable_conditional {test : Text} {children : List Node} {alternate : Option (List Node)}
    (h : Writable room (.conditional test children alternate)) :
    ∃ less, room = less + 1 ∧ WritableAll less children ∧ WritableBranch less alternate := by
  cases room with
  | zero => cases h.1
  | succ less => exact ⟨less, rfl, writable_conditional_succ.mp h⟩

theorem Writable.branches {test : Text} {children : List Node} {alternate : Option (List Node)}
    (h : Writable room (.conditional test children alternate)) :
    WritableAll room children ∧ WritableBranch room alternate := by
  obtain ⟨less, rfl, hchildren, halternate⟩ := writable_conditional h
  exact ⟨hchildren.mono (Nat.le_succ less), halternate.mono (Nat.le_succ less)⟩

end Node

namespace Lower

open Node

/-! ## Refusals -/

/-- A fault for which the template is to blame, and not its size. -/
def Fault.Refuses (fault : Fault) : Prop := fault.kind = .unsupported ∨ fault.kind = .style

/-- What is given comes with `c`, and a fault is a refusal. -/
def Guards {α : Type} (a : Except Fault α) (c : Prop) : Prop :=
  match a with
  | .ok _ => c
  | .error fault => fault.Refuses

/-- Something is given if `c` holds, and it is refused otherwise. -/
def Settles {α : Type} (a : Except Fault α) (c : Prop) : Prop :=
  match a with
  | .ok _ => c
  | .error fault => fault.Refuses ∧ ¬ c

variable {α β : Type} {a b : Except Fault α} {c d : Prop} {room limit : Nat}

namespace Guards

theorem mono (h : Guards a c) (hcd : c → d) : Guards a d := by
  cases a with
  | ok x => exact hcd h
  | error fault => exact h

theorem bind {f : α → Except Fault β} (h : Guards a c) (hf : ∀ x, c → Guards (f x) d) :
    Guards (a >>= f) d := by
  cases a with
  | ok x => exact hf x h
  | error fault => exact h

theorem ite {p : Prop} [Decidable p] (ha : p → Guards a c) (hb : ¬ p → Guards b c) :
    Guards (if p then a else b) c := by
  split
  next hp => exact ha hp
  next hp => exact hb hp

end Guards

namespace Settles

theorem guards (h : Settles a c) : Guards a c := by
  cases a with
  | ok x => exact h
  | error fault => exact h.1

theorem congr (h : Settles a c) (hcd : c ↔ d) : Settles a d := by
  rw [← propext hcd]
  exact h

theorem bind {f : α → Except Fault β} (h : Settles a c) (hf : ∀ x, Settles (f x) d) :
    Settles (a >>= f) (c ∧ d) := by
  cases a with
  | ok x => exact (hf x).congr (and_iff_right h).symm
  | error fault => exact ⟨h.1, fun hc => h.2 hc.1⟩

theorem map (h : Settles a c) (f : α → β) : Settles (a >>= fun x => .ok (f x)) c := by
  cases a with
  | ok x => exact h
  | error fault => exact h

theorem ite {p : Prop} [Decidable p] (ha : p → Settles a c) (hb : ¬ p → Settles b c) :
    Settles (if p then a else b) c := by
  split
  next hp => exact ha hp
  next hp => exact hb hp

end Settles

theorem quoteAll_of_writable {ns : List Node} (h : WritableAll room ns) :
    quoteAll room ns = .ok (printAll ns) := by
  simp [quoteAll, h.1, h.2]

theorem refuse_guards {n : Node} (h : Writable room n) (misuse : Misuse) :
    Guards (refuse room misuse n : Except Fault α) c := by
  rw [refuse, quote, quoteAll_of_writable h.all]
  exact .inl rfl

theorem refuse_settles {n : Node} (h : Writable room n) (misuse : Misuse) (hc : ¬ c) :
    Settles (refuse room misuse n : Except Fault α) c := by
  rw [refuse, quote, quoteAll_of_writable h.all]
  exact ⟨.inl rfl, hc⟩

theorem refuseStyle_guards {ns : List Node} (h : WritableAll room ns) (fault : Style.Fault) :
    Guards (refuseStyle room fault ns : Except Fault α) c := by
  rw [refuseStyle, quoteAll_of_writable h]
  exact .inr rfl

/-! ## What is allowed -/

/-- Whether a node is allowed where it stands, whatever there is in it. -/
def Allowed (limit : Nat) (p : Site) : Node → Prop
  | .text _ | .comment _ | .conditional .. => True
  | .encoded _ | .interpolated _ | .iterator .. => p ≠ .area
  | .attribute name parts =>
    p = .area ∧ (isStyle name = true → ∃ object, style limit parts = .ok object)
  | .element .. => p = .content
  | .evaluated _ | .document _ | .foreign => False

theorem allowed_conditional {p : Site} {test : Text} {yes : List Node}
    {no : Option (List Node)} : Throughout (Allowed limit) p (.conditional test yes no) ↔
      Everywhere (Allowed limit) p yes ∧ EverywhereBranch (Allowed limit) p no :=
  throughout_conditional.trans (and_iff_right trivial)

/-! ## Template literals -/

mutual

theorem segmentsOf_settles : ∀ (n : Node) {room : Nat}, Writable room n →
    Settles (segmentsOf room n) (Throughout (Allowed limit) .value n)
  | .text _, _, _ | .comment _, _, _ => (throughout_leaf rfl).mpr trivial
  | .encoded _, _, _ | .interpolated _, _, _ => (throughout_leaf rfl).mpr nofun
  | .conditional _ yes no, _, h => by
    obtain ⟨room, rfl, hyes, hno⟩ := writable_conditional h
    rw [segmentsOf]
    refine .congr ?_ (allowed_conditional.trans and_comm).symm
    exact .bind (branchSegments_settles no hno) fun _ => .map (segments_settles yes hyes) _
  | .iterator _ _ body, _, h => by
    obtain ⟨room, rfl, hbody⟩ := writable_iterator h
    rw [segmentsOf]
    refine .congr (.map (segments_settles body hbody) _) ?_
    simp [throughout_iterator, Allowed]
  | .evaluated _, _, h | .attribute .., _, h | .element .., _, h | .document _, _, h
  | .foreign, _, h => by
    rw [segmentsOf]
    exact refuse_settles h _ fun hn => by simp [Throughout, Allowed] at hn

theorem segments_settles : ∀ (ns : List Node) {room : Nat}, WritableAll room ns →
    Settles (segments room ns) (Everywhere (Allowed limit) .value ns)
  | [], _, _ => everywhere_nil
  | n :: ns, _, h => by
    obtain ⟨hn, hns⟩ := writableAll_cons.mp h
    exact .congr (.bind (segmentsOf_settles n hn) fun _ => .map (segments_settles ns hns) _)
      everywhere_cons.symm

theorem branchSegments_settles : ∀ (ns : Option (List Node)) {room : Nat},
    WritableBranch room ns →
      Settles (branchSegments room ns) (EverywhereBranch (Allowed limit) .value ns)
  | none, _, _ => trivial
  | some ns, _, h => segments_settles ns h

end

/-! ## Values without their terminator -/

mutual

theorem writable_stripLast : ∀ (n : Node) {room : Nat}, Writable room n →
    Writable room (stripLast n).1
  | .text value, _, _ => by
    simp only [stripLast]
    split <;> exact ⟨rfl, rfl⟩
  | .conditional _ yes no, _, h => by
    obtain ⟨room, rfl, hyes, hno⟩ := writable_conditional h
    rw [stripLast]
    exact writable_conditional_succ.mpr
      ⟨writableAll_stripTerminator yes hyes, writableBranch_stripTerminator no hno⟩
  | .comment _, _, h | .encoded _, _, h | .interpolated _, _, h | .evaluated _, _, h
  | .attribute .., _, h | .element .., _, h | .iterator .., _, h | .document _, _, h
  | .foreign, _, h => h

theorem writableAll_stripTerminator : ∀ (ns : List Node) {room : Nat}, WritableAll room ns →
    WritableAll room (stripTerminator ns).1
  | [], _, h => h
  | [n], _, h => (writable_stripLast n (writableAll_cons.mp h).1).all
  | n :: m :: ns, _, h => by
    obtain ⟨hn, hns⟩ := writableAll_cons.mp h
    exact writableAll_cons.mpr ⟨hn, writableAll_stripTerminator (m :: ns) hns⟩

theorem writableBranch_stripTerminator : ∀ (ns : Option (List Node)) {room : Nat},
    WritableBranch room ns → WritableBranch room (stripBranchTerminator ns).1
  | none, _, h => h
  | some ns, _, h => writableAll_stripTerminator ns h

end

mutual

theorem throughout_of_stripLast : ∀ n : Node,
    Throughout (Allowed limit) .value (stripLast n).1 → Throughout (Allowed limit) .value n
  | .text _, _ => (throughout_leaf rfl).mpr trivial
  | .conditional _ yes no, h => by
    rw [stripLast] at h
    obtain ⟨hyes, hno⟩ := allowed_conditional.mp h
    exact allowed_conditional.mpr
      ⟨everywhere_of_stripTerminator yes hyes, everywhereBranch_of_stripTerminator no hno⟩
  | .comment _, h | .encoded _, h | .interpolated _, h | .evaluated _, h | .attribute .., h
  | .element .., h | .iterator .., h | .document _, h | .foreign, h => h

theorem everywhere_of_stripTerminator : ∀ ns : List Node,
    Everywhere (Allowed limit) .value (stripTerminator ns).1 → Everywhere (Allowed limit) .value ns
  | [], h => h
  | [n], h =>
    everywhere_cons.mpr ⟨throughout_of_stripLast n (everywhere_cons.mp h).1, everywhere_nil⟩
  | n :: m :: ns, h => by
    obtain ⟨hn, hns⟩ := everywhere_cons.mp h
    exact everywhere_cons.mpr ⟨hn, everywhere_of_stripTerminator (m :: ns) hns⟩

theorem everywhereBranch_of_stripTerminator : ∀ ns : Option (List Node),
    EverywhereBranch (Allowed limit) .value (stripBranchTerminator ns).1 →
      EverywhereBranch (Allowed limit) .value ns
  | none, h => h
  | some ns, h => everywhere_of_stripTerminator ns h

end

/-! ## Style objects -/

mutual

theorem rejectIteration_guards : ∀ (n : Node) {room : Nat}, Writable room n →
    Guards (rejectIteration room n) True
  | .iterator .., _, h => by
    rw [rejectIteration]
    exact refuse_guards h _
  | .conditional _ yes no, _, h => by
    obtain ⟨room, rfl, hyes, hno⟩ := writable_conditional h
    rw [rejectIteration]
    exact .bind (rejectIterations_guards yes hyes) fun _ _ => rejectBranchIterations_guards no hno
  | .text _, _, _ | .comment _, _, _ | .encoded _, _, _ | .interpolated _, _, _
  | .evaluated _, _, _ | .attribute .., _, _ | .element .., _, _ | .document _, _, _
  | .foreign, _, _ => trivial

theorem rejectIterations_guards : ∀ (ns : List Node) {room : Nat}, WritableAll room ns →
    Guards (rejectIterations room ns) True
  | [], _, _ => trivial
  | n :: ns, _, h => by
    obtain ⟨hn, hns⟩ := writableAll_cons.mp h
    exact .bind (rejectIteration_guards n hn) fun _ _ => rejectIterations_guards ns hns

theorem rejectBranchIterations_guards : ∀ (ns : Option (List Node)) {room : Nat},
    WritableBranch room ns → Guards (rejectBranchIterations room ns) True
  | none, _, _ => trivial
  | some ns, _, h => rejectIterations_guards ns h

end

theorem choiceInValue_guards {test : Text} {yes : List Node} {no : Option (List Node)}
    (h : Writable room (.conditional test yes no)) :
    Guards (choiceInValue room test yes no)
      (Throughout (Allowed limit) .value (.conditional test yes no)) := by
  have hyes : Settles (segments room (stripTerminator yes).1)
      (Everywhere (Allowed limit) .value (stripTerminator yes).1) :=
    segments_settles _ (writableAll_stripTerminator yes h.branches.1)
  have hno : Settles (branchSegments room (stripBranchTerminator no).1)
      (EverywhereBranch (Allowed limit) .value (stripBranchTerminator no).1) :=
    branchSegments_settles _ (writableBranch_stripTerminator no h.branches.2)
  unfold choiceInValue
  refine .ite (fun _ => refuseStyle_guards h.all _) fun _ => ?_
  refine .bind hyes.guards fun _ hyes => .bind hno.guards fun _ hno => ?_
  exact allowed_conditional.mpr
    ⟨everywhere_of_stripTerminator yes hyes, everywhereBranch_of_stripTerminator no hno⟩

theorem entry_guards (name : Text) (pieces : List Jsx.Segment) :
    Guards (entry name pieces) True := by
  unfold entry
  dsimp only
  split
  · trivial
  · split
    · exact .inr rfl
    · split <;> trivial

section Whole

variable {whole : List Node} (hwhole : WritableAll room whole)

include hwhole

theorem readChunk_guards (reading : Reading) (chunk : Chunk) :
    Guards (readChunk room whole reading chunk) True := by
  cases reading <;> cases chunk
  case name.semicolon => exact .ite (fun _ => trivial) fun _ => refuseStyle_guards hwhole _
  case value.semicolon => exact .bind (entry_guards _ _) fun _ _ => trivial
  all_goals trivial

theorem readChunks_guards (reading : Reading) (cs : List Chunk) :
    Guards (readChunks room whole reading cs) True := by
  induction cs generalizing reading with
  | nil => trivial
  | cons chunk cs ih =>
    exact .bind (readChunk_guards hwhole reading chunk) fun _ _ => .bind (ih _) fun _ _ => trivial

theorem finishReading_guards (reading : Reading) :
    Guards (finishReading room whole reading) True := by
  cases reading with
  | value name pieces => exact entry_guards name pieces
  | name name => exact .ite (fun _ => trivial) fun _ => refuseStyle_guards hwhole _

end Whole

theorem readHole_guards {n : Node} (h : Writable room n) (source : Text) (reading : Reading) :
    Guards (readHole room n source reading) True := by
  cases reading with
  | value name pieces => trivial
  | name name => exact refuseStyle_guards h.all _

mutual

theorem readPart_guards {whole : List Node} (hwhole : WritableAll room whole) (reading : Reading) :
    ∀ n : Node, Writable room n →
      Guards (readPart room whole reading n) (Throughout (Allowed limit) .value n)
  | .text _, _ =>
    (readChunks_guards hwhole reading _).mono fun _ => (throughout_leaf rfl).mpr trivial
  | .encoded _, h | .interpolated _, h =>
    .bind (readHole_guards h _ reading) fun _ _ => (throughout_leaf rfl).mpr nofun
  | .comment _, _ => (throughout_leaf rfl).mpr trivial
  | .conditional test yes no, h => by
    cases reading with
    | value name pieces =>
      refine .bind (choiceInValue_guards h) fun _ hn => .ite (fun _ => ?_) fun _ => hn
      exact .bind (entry_guards _ _) fun _ _ => hn
    | name name =>
      refine .ite (fun _ => ?_) fun _ => refuseStyle_guards h.all _
      obtain ⟨hyes, hno⟩ := h.branches
      exact .bind (readParts_guards hyes (.name []) yes hyes) fun _ hyes =>
        .bind (readBranch_guards no hno) fun _ hno =>
          allowed_conditional.mpr ⟨hyes, hno⟩
  | .iterator .., h | .evaluated _, h | .attribute .., h | .element .., h | .document _, h
  | .foreign, h => by
    simp only [readPart]
    exact refuse_guards h _

theorem readParts_guards {whole : List Node} (hwhole : WritableAll room whole) (reading : Reading) :
    ∀ ns : List Node, WritableAll room ns →
      Guards (readParts room whole reading ns) (Everywhere (Allowed limit) .value ns)
  | [], _ => (finishReading_guards hwhole reading).mono fun _ => everywhere_nil
  | n :: ns, h => by
    obtain ⟨hn, hns⟩ := writableAll_cons.mp h
    exact .bind (readPart_guards hwhole reading n hn) fun x hn =>
      .bind (readParts_guards hwhole x.2 ns hns) fun _ hns => everywhere_cons.mpr ⟨hn, hns⟩

theorem readBranch_guards : ∀ ns : Option (List Node), WritableBranch room ns →
    Guards (readBranch room ns) (EverywhereBranch (Allowed limit) .value ns)
  | none, _ => trivial
  | some ns, h => readParts_guards h (.name []) ns h

end

theorem throughout_of_prose {p : Site} {n : Node} (h : (n.isText || n.isComment) = true) :
    Throughout (Allowed limit) p n := by
  cases n with
  | text | comment => exact (throughout_leaf rfl).mpr trivial
  | _ => cases h

theorem everywhere_of_prose {p : Site} {ns : List Node}
    (h : ∀ n ∈ ns, (n.isText || n.isComment) = true) : Everywhere (Allowed limit) p ns :=
  everywhere_iff.mpr fun n hn => throughout_of_prose (h n hn)

theorem style_guards {parts : List Node} (h : WritableAll room parts) :
    Guards (style room parts) (Everywhere (Allowed limit) .value parts) := by
  have hparts : Guards (readParts room parts (.name []) parts)
      (Everywhere (Allowed limit) .value parts) := readParts_guards h (.name []) parts h
  refine .bind (rejectIterations_guards parts h) fun _ _ => .ite (fun hprose => ?_) fun _ => ?_
  · dsimp only
    split
    · exact .inr rfl
    · exact .inr rfl
    · exact everywhere_of_prose (List.all_eq_true.mp hprose)
  · exact .bind hparts fun entries hparts =>
      .ite (fun _ => refuseStyle_guards h _) fun _ => hparts

/-- Within the limit, a style object is refused for its parts and not for want of room. -/
theorem style_settles {parts : List Node} (h : WritableAll room parts)
    (hroom : room ≤ limit) :
    Settles (style room parts) ((∃ object, style limit parts = .ok object) ∧
      Everywhere (Allowed limit) .value parts) := by
  have hguards : Guards (style room parts) (Everywhere (Allowed limit) .value parts) :=
    style_guards h
  have hkeeps := style_keeps hroom parts
  cases hstyle : style room parts with
  | ok object =>
    rw [hstyle] at hguards
    exact ⟨⟨object, hkeeps.eq_ok hstyle⟩, hguards⟩
  | error fault =>
    rw [hstyle] at hguards hkeeps
    refine ⟨hguards, ?_⟩
    rintro ⟨⟨object, hobject⟩, -⟩
    rcases hkeeps with hdeep | hsame
    · cases hdeep
      rcases hguards with hkind | hkind <;> cases hkind
    · rw [hsame] at hobject
      cases hobject

end Lower

end Stencil
