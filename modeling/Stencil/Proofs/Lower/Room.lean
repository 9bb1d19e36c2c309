import Stencil.Lower.Attribute

/-!
# Room for attributes

Lowering opens one level for each conditional and iteration it goes into, and `room` bounds the
levels. The bound only ever turns an outcome into a fault of nesting: unless it does, the attributes
of an element have the same outcome with more room.
-/

namespace Stencil

namespace Node

mutual

theorem fits_mono : ∀ (n : Node) {room more : Nat}, room ≤ more → fits room n = true →
    fits more n = true
  | .attribute _ parts, _, _, h, hn => allFit_mono parts h hn
  | .element _ attributes children, _ + 1, _ + 1, h, hn => by
    have h := Nat.le_of_succ_le_succ h
    simp only [fits, Bool.and_eq_true] at hn ⊢
    exact ⟨allFit_mono attributes h hn.1, allFit_mono children h hn.2⟩
  | .iterator _ _ children, _ + 1, _ + 1, h, hn =>
    allFit_mono children (Nat.le_of_succ_le_succ h) hn
  | .conditional _ children alternate, _ + 1, _ + 1, h, hn => by
    have h := Nat.le_of_succ_le_succ h
    simp only [fits, Bool.and_eq_true] at hn ⊢
    exact ⟨allFit_mono children h hn.1, branchFits_mono alternate h hn.2⟩
  | .document children, _, _, h, hn => allFit_mono children h hn
  | .text _, _, _, _, _ | .comment _, _, _, _, _ | .encoded _, _, _, _, _
  | .interpolated _, _, _, _, _ | .evaluated _, _, _, _, _ | .foreign, _, _, _, _ => rfl

theorem allFit_mono : ∀ (ns : List Node) {room more : Nat}, room ≤ more →
    allFit room ns = true → allFit more ns = true
  | [], _, _, _, _ => rfl
  | n :: ns, _, _, h, hns => by
    simp only [allFit, Bool.and_eq_true] at hns ⊢
    exact ⟨fits_mono n h hns.1, allFit_mono ns h hns.2⟩

theorem branchFits_mono : ∀ (ns : Option (List Node)) {room more : Nat}, room ≤ more →
    branchFits room ns = true → branchFits more ns = true
  | none, _, _, _, _ => rfl
  | some ns, _, _, h, hns => allFit_mono ns h hns

end

end Node

namespace Lower

open Jsx (Segment StyleEntry)

theorem exists_of_bind_eq_ok {ε α β : Type} {a : Except ε α} {f : α → Except ε β} {b : β}
    (h : a >>= f = .ok b) : ∃ x, a = .ok x ∧ f x = .ok b := by
  cases a with
  | error fault => cases h
  | ok x => exact ⟨x, rfl, h⟩

/-- Unless `a` is too deep, `b` is the same. -/
def Keeps {α : Type} (a b : Except Fault α) : Prop := a = .error .tooDeep ∨ b = a

namespace Keeps

variable {α β : Type} {a b : Except Fault α}

theorem refl (a : Except Fault α) : Keeps a a := .inr rfl

theorem tooDeep (b : Except Fault α) : Keeps (.error .tooDeep) b := .inl rfl

theorem eq_ok (h : Keeps a b) {x : α} (ha : a = .ok x) : b = .ok x := by
  rcases h with h | h
  · rw [h] at ha
    cases ha
  · rw [h, ha]

theorem bind {f g : α → Except Fault β} (h : Keeps a b) (hfg : ∀ x, Keeps (f x) (g x)) :
    Keeps (a >>= f) (b >>= g) := by
  rcases h with rfl | rfl
  · exact .inl rfl
  · cases b with
    | error fault => exact .refl _
    | ok x => exact hfg x

theorem ite {c d : Except Fault α} (p : Prop) [Decidable p] (hab : Keeps a b) (hcd : Keeps c d) :
    Keeps (if p then a else c) (if p then b else d) := by
  split
  · exact hab
  · exact hcd

end Keeps

variable {α : Type} {room more : Nat}

theorem quoteAll_keeps (h : room ≤ more) (nodes : List Node) :
    Keeps (quoteAll room nodes) (quoteAll more nodes) := by
  unfold quoteAll
  cases hfit : Node.allFit room nodes with
  | false => exact .tooDeep _
  | true =>
    rw [Node.allFit_mono nodes h hfit]
    exact .refl _

theorem refuse_keeps (h : room ≤ more) (misuse : Misuse) (n : Node) :
    Keeps (refuse room misuse n : Except Fault α) (refuse more misuse n) := by
  unfold refuse quote
  rcases quoteAll_keeps h [n] with hq | hq <;> rw [hq]
  · exact .tooDeep _
  · exact .refl _

theorem refuseStyle_keeps (h : room ≤ more) (fault : Style.Fault) (nodes : List Node) :
    Keeps (refuseStyle room fault nodes : Except Fault α) (refuseStyle more fault nodes) := by
  unfold refuseStyle
  rcases quoteAll_keeps h nodes with hq | hq <;> rw [hq]
  · exact .tooDeep _
  · exact .refl _

theorem refuseAttribute_keeps (h : room ≤ more) (n : Node) :
    Keeps (refuseAttribute room n : Except Fault α) (refuseAttribute more n) := by
  unfold refuseAttribute
  split <;> exact refuse_keeps h _ _

/-! ## Template literals -/

mutual

theorem segmentsOf_keeps : ∀ (n : Node) {room more : Nat}, room ≤ more →
    Keeps (segmentsOf room n) (segmentsOf more n)
  | .text _, _, _, _ | .encoded _, _, _, _ | .interpolated _, _, _, _ | .comment _, _, _, _ =>
    .refl _
  | .conditional .., 0, _, _ | .iterator .., 0, _, _ => .tooDeep _
  | .conditional _ yes no, _ + 1, _ + 1, h =>
    have h := Nat.le_of_succ_le_succ h
    .bind (branchSegments_keeps no h) fun _ => .bind (segments_keeps yes h) fun _ => .refl _
  | .iterator _ _ body, _ + 1, _ + 1, h =>
    .bind (segments_keeps body (Nat.le_of_succ_le_succ h)) fun _ => .refl _
  | .evaluated _, _, _, h | .attribute .., _, _, h | .element .., _, _, h
  | .document _, _, _, h | .foreign, _, _, h => by
    simp only [segmentsOf]
    exact refuse_keeps h _ _

theorem segments_keeps : ∀ (ns : List Node) {room more : Nat}, room ≤ more →
    Keeps (segments room ns) (segments more ns)
  | [], _, _, _ => .refl _
  | n :: ns, _, _, h => .bind (segmentsOf_keeps n h) fun _ =>
    .bind (segments_keeps ns h) fun _ => .refl _

theorem branchSegments_keeps : ∀ (ns : Option (List Node)) {room more : Nat}, room ≤ more →
    Keeps (branchSegments room ns) (branchSegments more ns)
  | none, _, _, _ => .refl _
  | some ns, _, _, h => segments_keeps ns h

end

/-! ## Style objects -/

mutual

theorem rejectIteration_keeps : ∀ (n : Node) {room more : Nat}, room ≤ more →
    Keeps (rejectIteration room n) (rejectIteration more n)
  | .iterator .., _, _, h => by
    simp only [rejectIteration]
    exact refuse_keeps h _ _
  | .conditional .., 0, _, _ => .tooDeep _
  | .conditional _ yes no, _ + 1, _ + 1, h =>
    have h := Nat.le_of_succ_le_succ h
    .bind (rejectIterations_keeps yes h) fun _ => rejectBranchIterations_keeps no h
  | .text _, _, _, _ | .comment _, _, _, _ | .encoded _, _, _, _ | .interpolated _, _, _, _
  | .evaluated _, _, _, _ | .attribute .., _, _, _ | .element .., _, _, _
  | .document _, _, _, _ | .foreign, _, _, _ => .refl _

theorem rejectIterations_keeps : ∀ (ns : List Node) {room more : Nat}, room ≤ more →
    Keeps (rejectIterations room ns) (rejectIterations more ns)
  | [], _, _, _ => .refl _
  | n :: ns, _, _, h => .bind (rejectIteration_keeps n h) fun _ => rejectIterations_keeps ns h

theorem rejectBranchIterations_keeps : ∀ (ns : Option (List Node)) {room more : Nat},
    room ≤ more → Keeps (rejectBranchIterations room ns) (rejectBranchIterations more ns)
  | none, _, _, _ => .refl _
  | some ns, _, _, h => rejectIterations_keeps ns h

end

theorem choiceInValue_keeps (h : room ≤ more) (test : Text) (yes : List Node)
    (no : Option (List Node)) :
    Keeps (choiceInValue room test yes no) (choiceInValue more test yes no) := by
  unfold choiceInValue
  refine .ite _ (refuseStyle_keeps h _ _) ?_
  exact .bind (segments_keeps _ h) fun _ => .bind (branchSegments_keeps _ h) fun _ => .refl _

theorem readChunk_keeps (h : room ≤ more) (whole : List Node) (reading : Reading) (c : Chunk) :
    Keeps (readChunk room whole reading c) (readChunk more whole reading c) := by
  cases reading <;> cases c
  case name.semicolon => exact .ite _ (.refl _) (refuseStyle_keeps h _ _)
  all_goals exact .refl _

theorem readChunks_keeps (h : room ≤ more) (whole : List Node) (reading : Reading)
    (cs : List Chunk) :
    Keeps (readChunks room whole reading cs) (readChunks more whole reading cs) := by
  induction cs generalizing reading with
  | nil => exact .refl _
  | cons c cs ih => exact .bind (readChunk_keeps h _ _ _) fun _ => .bind (ih _) fun _ => .refl _

theorem finishReading_keeps (h : room ≤ more) (whole : List Node) (reading : Reading) :
    Keeps (finishReading room whole reading) (finishReading more whole reading) := by
  cases reading with
  | value name pieces => exact .refl _
  | name name => exact .ite _ (.refl _) (refuseStyle_keeps h _ _)

theorem readHole_keeps (h : room ≤ more) (n : Node) (source : Text) (reading : Reading) :
    Keeps (readHole room n source reading) (readHole more n source reading) := by
  cases reading with
  | value name pieces => exact .refl _
  | name name => exact refuseStyle_keeps h _ _

mutual

theorem readPart_keeps (h : room ≤ more) (whole : List Node) (reading : Reading) : ∀ n : Node,
    Keeps (readPart room whole reading n) (readPart more whole reading n)
  | .text _ => readChunks_keeps h _ _ _
  | .encoded _ | .interpolated _ => .bind (readHole_keeps h _ _ _) fun _ => .refl _
  | .comment _ => .refl _
  | .conditional test yes no => by
    cases reading with
    | value name pieces =>
      exact .bind (choiceInValue_keeps h test yes no) fun _ => .refl _
    | name name =>
      refine .ite _ ?_ (refuseStyle_keeps h _ _)
      exact .bind (readParts_keeps h yes _ yes) fun _ => .bind (readBranch_keeps h no) fun _ =>
        .refl _
  | .iterator .. | .evaluated _ | .attribute .. | .element .. | .document _ | .foreign => by
    simp only [readPart]
    exact refuse_keeps h _ _

theorem readParts_keeps (h : room ≤ more) (whole : List Node) (reading : Reading) :
    ∀ ns : List Node, Keeps (readParts room whole reading ns) (readParts more whole reading ns)
  | [] => finishReading_keeps h _ _
  | n :: ns => .bind (readPart_keeps h whole reading n) fun p =>
    .bind (readParts_keeps h whole p.2 ns) fun _ => .refl _

theorem readBranch_keeps (h : room ≤ more) : ∀ ns : Option (List Node),
    Keeps (readBranch room ns) (readBranch more ns)
  | none => .refl _
  | some ns => readParts_keeps h ns _ ns

end

theorem style_keeps (h : room ≤ more) (parts : List Node) :
    Keeps (style room parts) (style more parts) := by
  refine .bind (rejectIterations_keeps parts h) fun _ => .ite _ (.refl _) ?_
  refine .bind (readParts_keeps h parts _ parts) fun entries => ?_
  exact .ite _ (refuseStyle_keeps h _ _) (.refl _)

/-! ## Attributes -/

theorem composedValue_keeps (h : room ≤ more) (parts : List Node) :
    Keeps (composedValue room parts) (composedValue more parts) :=
  .ite _ (.refl _) (.bind (segments_keeps parts h) fun _ => .refl _)

mutual

theorem partValue_keeps : ∀ (n : Node) {room more : Nat}, room ≤ more →
    Keeps (partValue room n) (partValue more n)
  | .encoded _, _, _, _ | .interpolated _, _, _, _ => .refl _
  | .conditional .., 0, _, _ => .tooDeep _
  | .conditional _ yes no, _ + 1, _ + 1, h =>
    have h := Nat.le_of_succ_le_succ h
    .ite _ (.bind (.refl _) fun _ => .bind (branchValue_keeps no h) fun _ => .refl _)
      (.bind (value_keeps yes h) fun _ => .bind (branchValue_keeps no h) fun _ => .refl _)
  | .text _, _, _, h | .comment _, _, _, h | .evaluated _, _, _, h | .attribute .., _, _, h
  | .element .., _, _, h | .iterator .., _, _, h | .document _, _, _, h | .foreign, _, _, h =>
    composedValue_keeps h _

theorem value_keeps : ∀ (ns : List Node) {room more : Nat}, room ≤ more →
    Keeps (value room ns) (value more ns)
  | [], _, _, h => composedValue_keeps h []
  | [n], _, _, h => partValue_keeps n h
  | m :: n :: ns, _, _, h => composedValue_keeps h (m :: n :: ns)

theorem branchValue_keeps : ∀ (ns : Option (List Node)) {room more : Nat}, room ≤ more →
    Keeps (branchValue room ns) (branchValue more ns)
  | none, _, _, _ => .refl _
  | some ns, _, _, h => .ite _ (.refl _) (value_keeps ns h)

end

theorem property_keeps (h : room ≤ more) (name : Text) (parts : List Node) :
    Keeps (property room name parts) (property more name parts) := by
  refine .ite _ (.bind (style_keeps h parts) fun _ => .refl _) (.ite _ (.refl _) ?_)
  exact .bind (value_keeps parts h) fun _ => .refl _

mutual

theorem propertiesOf_keeps : ∀ (n : Node) {room more : Nat}, room ≤ more →
    Keeps (propertiesOf room n) (propertiesOf more n)
  | .attribute name parts, _, _, h => .bind (property_keeps h name parts) fun _ => .refl _
  | .conditional .., 0, _, _ => .tooDeep _
  | .conditional _ yes no, _ + 1, _ + 1, h =>
    have h := Nat.le_of_succ_le_succ h
    .bind (properties_keeps yes h) fun _ => .bind (branchProperties_keeps no h) fun _ => .refl _
  | .text _, _, _, _ | .comment _, _, _, _ => .refl _
  | .encoded _, _, _, h | .interpolated _, _, _, h | .evaluated _, _, _, h | .element .., _, _, h
  | .iterator .., _, _, h | .document _, _, _, h | .foreign, _, _, h => by
    simp only [propertiesOf]
    exact refuseAttribute_keeps h _

theorem properties_keeps : ∀ (ns : List Node) {room more : Nat}, room ≤ more →
    Keeps (properties room ns) (properties more ns)
  | [], _, _, _ => .refl _
  | n :: ns, _, _, h => .bind (propertiesOf_keeps n h) fun _ =>
    .bind (properties_keeps ns h) fun _ => .refl _

theorem branchProperties_keeps : ∀ (ns : Option (List Node)) {room more : Nat}, room ≤ more →
    Keeps (branchProperties room ns) (branchProperties more ns)
  | none, _, _, _ => .refl _
  | some ns, _, _, h => properties_keeps ns h

end

theorem attributeOf_keeps (h : room ≤ more) (name : Text) (parts : List Node) :
    Keeps (attributeOf room name parts) (attributeOf more name parts) := by
  refine .ite _ (.bind (style_keeps h parts) fun _ => .refl _) ?_
  split
  case h_4 => exact .ite _ (.refl _) (.bind (segments_keeps _ h) fun _ => .refl _)
  all_goals exact .refl _

theorem spread_keeps {room more : Nat} (h : room ≤ more) (test : Text) (yes : List Node)
    (no : Option (List Node)) : Keeps (spread room test yes no) (spread more test yes no) :=
  match room, more, h with
  | 0, _, _ => .tooDeep _
  | _ + 1, _ + 1, h =>
    have h := Nat.le_of_succ_le_succ h
    .bind (properties_keeps yes h) fun _ => .bind (branchProperties_keeps no h) fun _ => .refl _

/-- More room keeps the attributes of an element. -/
theorem attributes_keeps (h : room ≤ more) : ∀ area : List Node,
    Keeps (attributes room area) (attributes more area)
  | [] => .refl _
  | .attribute name parts :: ns => .bind (attributeOf_keeps h name parts) fun _ =>
    .bind (attributes_keeps h ns) fun _ => .refl _
  | .conditional test yes no :: ns => .bind (spread_keeps h test yes no) fun _ =>
    .bind (attributes_keeps h ns) fun _ => .refl _
  | .text _ :: ns | .comment _ :: ns => attributes_keeps h ns
  | .encoded _ :: _ | .interpolated _ :: _ | .evaluated _ :: _ | .element .. :: _
  | .iterator .. :: _ | .document _ :: _ | .foreign :: _ => refuseAttribute_keeps h _

end Lower

end Stencil
