import Stencil.Proofs.Lower.Style

/-!
# Dynamic parts leave a trace

An expression or a conditional in the value of a declaration is pending until the declaration ends,
and then the value is not empty, so there is an entry for it. A conditional between declarations is
an entry by itself. So a style attribute with a dynamic part has an entry or is refused for another
reason than that it has none (`dynamic_part_leaves_entry`).
-/

namespace Stencil.Lower

open Jsx Text

/-- Whether a fault is that a style attribute has no declarations. -/
def Fault.lacksDeclarations : Fault → Bool
  | .style .noDeclarations _ => true
  | _ => false

/-- What is given has the property, and a fault is not that there are no declarations. -/
def Passes {α : Type} (a : Except Fault α) (p : α → Prop) : Prop :=
  match a with
  | .ok x => p x
  | .error fault => fault.lacksDeclarations = false

namespace Passes

variable {α β : Type} {a b : Except Fault α} {p : α → Prop}

theorem mono {q : α → Prop} (h : Passes a p) (hpq : ∀ x, p x → q x) : Passes a q := by
  cases a with
  | ok x => exact hpq x h
  | error fault => exact h

theorem bind {f : α → Except Fault β} {q : β → Prop} (h : Passes a p)
    (hf : ∀ x, p x → Passes (f x) q) : Passes (a >>= f) q := by
  cases a with
  | ok x => exact hf x h
  | error fault => exact h

theorem ite {c : Prop} [Decidable c] (ha : c → Passes a p) (hb : ¬ c → Passes b p) :
    Passes (if c then a else b) p := by
  split
  next hc => exact ha hc
  next hc => exact hb hc

end Passes

variable {α : Type} {room : Nat} {whole : List Node} {p : α → Prop}

/-! ## Refusals and segments -/

theorem quoteAll_passes (room : Nat) (ns : List Node) : Passes (quoteAll room ns) fun _ => True :=
  .ite (fun _ => rfl) fun _ => .ite (fun _ => rfl) fun _ => trivial

theorem refuse_passes (misuse : Misuse) (n : Node) :
    Passes (refuse room misuse n : Except Fault α) p := by
  have hquote := quoteAll_passes room [n]
  rw [refuse, quote]
  split
  next => rfl
  next hfault =>
    rw [hfault] at hquote
    exact hquote

theorem refuseStyle_passes {fault : Style.Fault} (h : fault ≠ .noDeclarations) (ns : List Node) :
    Passes (refuseStyle room fault ns : Except Fault α) p := by
  have hquote := quoteAll_passes room ns
  rw [refuseStyle]
  split
  next =>
    cases fault with
    | noDeclarations => exact absurd rfl h
    | malformed | namelessDeclaration | severalDeclarations | dynamicName => rfl
  next hfault =>
    rw [hfault] at hquote
    exact hquote

mutual

theorem rejectIteration_passes (room : Nat) : ∀ n : Node,
    Passes (rejectIteration room n) fun _ => True
  | .iterator .. => by
    rw [rejectIteration]
    exact refuse_passes _ _
  | .conditional _ yes no => by
    cases room with
    | zero => rfl
    | succ room =>
      rw [rejectIteration]
      exact .bind (rejectIterations_passes room yes) fun _ _ => rejectBranchIterations_passes room no
  | .text _ | .comment _ | .encoded _ | .interpolated _ | .evaluated _ | .attribute ..
  | .element .. | .document _ | .foreign => trivial

theorem rejectIterations_passes (room : Nat) : ∀ ns : List Node,
    Passes (rejectIterations room ns) fun _ => True
  | [] => trivial
  | n :: ns => .bind (rejectIteration_passes room n) fun _ _ => rejectIterations_passes room ns

theorem rejectBranchIterations_passes (room : Nat) : ∀ ns : Option (List Node),
    Passes (rejectBranchIterations room ns) fun _ => True
  | none => trivial
  | some ns => rejectIterations_passes room ns

end

mutual

theorem segmentsOf_passes (room : Nat) : ∀ n : Node, Passes (segmentsOf room n) fun _ => True
  | .conditional _ yes no => by
    cases room with
    | zero => rfl
    | succ room =>
      rw [segmentsOf]
      exact .bind (branchSegments_passes room no) fun _ _ =>
        .bind (segments_passes room yes) fun _ _ => trivial
  | .iterator _ _ body => by
    cases room with
    | zero => rfl
    | succ room =>
      rw [segmentsOf]
      exact .bind (segments_passes room body) fun _ _ => trivial
  | .text _ | .encoded _ | .interpolated _ | .comment _ => trivial
  | .evaluated _ | .attribute .. | .element .. | .document _ | .foreign => by
    rw [segmentsOf]
    exact refuse_passes _ _

theorem segments_passes (room : Nat) : ∀ ns : List Node, Passes (segments room ns) fun _ => True
  | [] => trivial
  | n :: ns => .bind (segmentsOf_passes room n) fun _ _ =>
      .bind (segments_passes room ns) fun _ _ => trivial

theorem branchSegments_passes (room : Nat) : ∀ ns : Option (List Node),
    Passes (branchSegments room ns) fun _ => True
  | none => trivial
  | some ns => segments_passes room ns

end

/-- A conditional in a value is a piece of it that is no text. -/
theorem choiceInValue_passes (test : Text) (yes : List Node) (no : Option (List Node)) :
    Passes (choiceInValue room test yes no) fun x => x.1.isText = false := by
  unfold choiceInValue
  refine .ite (fun _ => refuseStyle_passes (by decide) _) fun _ => ?_
  exact .bind (segments_passes room _) fun _ _ => .bind (branchSegments_passes room _) fun _ _ => rfl

/-! ## What is pending -/

/-- Whether a piece is pending that is no text. -/
def Reading.live : Reading → Bool
  | .name _ => false
  | .value _ pieces => pieces.any fun piece => !piece.isText

/-- Whether a part is more than literal text. -/
def dynamic (n : Node) : Bool := !(n.isText || n.isComment)

/-- There are entries, or a piece is pending that is no text. -/
def Traced (x : List StyleEntry × Reading) : Prop := x.1 ≠ [] ∨ x.2.live = true

theorem live_concat {name : Text} {pieces : List Segment} {piece : Segment}
    (h : (Reading.value name pieces).live = true ∨ piece.isText = false) :
    (Reading.value name (pieces ++ [piece])).live = true := by
  rw [Reading.live, List.any_append, Bool.or_eq_true]
  rcases h with h | h
  · exact .inl h
  · exact .inr (by rw [List.any_cons, h]; rfl)

/-- A piece that is no text is not left out of the entry. -/
theorem present_ne_nil {name : Text} {pieces : List Segment}
    (h : (Reading.value name pieces).live = true) : present pieces ≠ [] := by
  intro hnil
  rw [Reading.live, ← List.not_all_eq_any_not, ← all_isText_present, hnil] at h
  cases h

theorem entry_passes (name : Text) (pieces : List Segment) :
    Passes (entry name pieces) fun es => (Reading.value name pieces).live = true → es ≠ [] := by
  unfold entry
  dsimp only
  refine .ite (fun hnil => ?_) fun _ => .ite (fun _ => rfl) fun _ => ?_
  · exact fun hlive => absurd (List.isEmpty_iff.mp hnil) (present_ne_nil hlive)
  · exact .ite (fun _ _ => List.cons_ne_nil _ _) fun _ _ => List.cons_ne_nil _ _

/-! ## Steps of the reader -/

theorem readChunk_passes (r : Reading) (c : Chunk) :
    Passes (readChunk room whole r c) fun x => r.live = true → Traced x := by
  cases r with
  | name name =>
    cases c with
    | semicolon =>
      exact .ite (fun _ hlive => absurd hlive Bool.false_ne_true) fun _ =>
        refuseStyle_passes Style.Fault.noConfusion _
    | colon | text => exact fun hlive => absurd hlive Bool.false_ne_true
  | value name pieces =>
    cases c with
    | semicolon => exact .bind (entry_passes name pieces) fun es hes hlive => .inl (hes hlive)
    | colon | text => exact fun hlive => .inr (live_concat (.inl hlive))

theorem readChunks_passes (r : Reading) (cs : List Chunk) :
    Passes (readChunks room whole r cs) fun x => r.live = true → Traced x := by
  induction cs generalizing r with
  | nil => exact fun hlive => .inr hlive
  | cons c cs ih =>
    refine .bind (readChunk_passes r c) fun x hx => .bind (ih x.2) fun y hy hlive => ?_
    rcases hx hlive with hdone | hlive
    · exact .inl fun hnil => hdone (List.append_eq_nil_iff.mp hnil).1
    · exact (hy hlive).imp_left fun hlater hnil => hlater (List.append_eq_nil_iff.mp hnil).2

theorem finishReading_passes (r : Reading) :
    Passes (finishReading room whole r) fun es => r.live = true → es ≠ [] := by
  cases r with
  | value name pieces => exact entry_passes name pieces
  | name name =>
    exact .ite (fun _ hlive => absurd hlive Bool.false_ne_true) fun _ =>
      refuseStyle_passes Style.Fault.noConfusion _

theorem readHole_passes (n : Node) (source : Text) (r : Reading) :
    Passes (readHole room n source r) fun s => s.live = true := by
  cases r with
  | name name => exact refuseStyle_passes (by decide) _
  | value name pieces => exact live_concat (.inr rfl)

-- The induction is on the parts. Nothing is known of the branches of a conditional but that their
-- faults pass, since a conditional leaves a trace whatever there is in its branches.
mutual

theorem readPart_passes (room : Nat) : ∀ (n : Node) (whole : List Node) (r : Reading),
    Passes (readPart room whole r n) fun x => (r.live || dynamic n) = true → Traced x
  | .text t, whole, r => by
    rw [readPart, show dynamic (.text t) = false from rfl, Bool.or_false]
    exact readChunks_passes r (chunks t)
  | .comment _, _, r => by
    rw [readPart, show dynamic (.comment _) = false from rfl, Bool.or_false]
    exact fun hlive => .inr hlive
  | .encoded source, _, r => .bind (readHole_passes _ source r) fun _ hlive _ => .inr hlive
  | .interpolated source, _, r => .bind (readHole_passes _ source r) fun _ hlive _ => .inr hlive
  | .conditional test yes no, _, .value name pieces => by
    refine .bind (choiceInValue_passes test yes no) fun x hx => ?_
    have hlive : (Reading.value name (pieces ++ [x.1])).live = true := live_concat (.inr hx)
    refine .ite (fun _ => ?_) fun _ _ => .inr hlive
    exact .bind (entry_passes name (pieces ++ [x.1])) fun es hes _ => .inl (hes hlive)
  | .conditional _ yes no, _, .name _ =>
    .ite (fun _ => .bind (readParts_passes room yes yes (.name [])) fun _ _ =>
      .bind (readBranch_passes room no) fun _ _ _ => .inl (List.cons_ne_nil _ _)) fun _ =>
        refuseStyle_passes Style.Fault.noConfusion _
  | .iterator .., _, _ | .evaluated _, _, _ | .attribute .., _, _ | .element .., _, _
  | .document _, _, _ | .foreign, _, _ => by
    simp only [readPart]
    exact refuse_passes _ _

theorem readParts_passes (room : Nat) : ∀ (ns whole : List Node) (r : Reading),
    Passes (readParts room whole r ns) fun es => (r.live || ns.any dynamic) = true → es ≠ []
  | [], whole, r => by
    rw [readParts, List.any_nil, Bool.or_false]
    exact finishReading_passes r
  | n :: ns, whole, r => by
    refine .bind (readPart_passes room n whole r) fun x hx =>
      .bind (readParts_passes room ns whole x.2) fun later hlater h hnil => ?_
    obtain ⟨hdone, hrest⟩ := List.append_eq_nil_iff.mp hnil
    rw [List.any_cons, ← Bool.or_assoc, Bool.or_eq_true] at h
    have hpending : (x.2.live || ns.any dynamic) = true := by
      rcases h with h | h
      · rw [(hx h).resolve_left (not_not_intro hdone), Bool.true_or]
      · rw [h, Bool.or_true]
    exact hlater hpending hrest

theorem readBranch_passes (room : Nat) : ∀ ns : Option (List Node),
    Passes (readBranch room ns) fun _ => True
  | none => trivial
  | some ns => (readParts_passes room ns ns (.name [])).mono fun _ _ => trivial

end

/-- A dynamic part leaves an entry: if the parts of a style attribute are not all text and comments,
reading them fails or gives an entry, so the attribute is never refused for having none. -/
theorem dynamic_part_leaves_entry {room : Nat} {parts : List Node}
    (h : ∃ n ∈ parts, n.isText = false ∧ n.isComment = false) :
    ((∃ fault, readParts room parts (.name []) parts = .error fault) ∨
      ∃ e es, readParts room parts (.name []) parts = .ok (e :: es)) ∧
    ∀ construct, style room parts ≠ .error (.style .noDeclarations construct) := by
  obtain ⟨n, hn, htext, hcomment⟩ := h
  have hdynamic : parts.any dynamic = true := by
    refine List.any_eq_true.mpr ⟨n, hn, ?_⟩
    rw [dynamic, htext, hcomment]
    rfl
  have hparts : Passes (readParts room parts (.name []) parts) fun es => es ≠ [] :=
    (readParts_passes room parts parts (.name [])).mono fun es hes =>
      hes (by rw [hdynamic, Bool.or_true])
  have hstyle : Passes (style room parts) fun _ => True := by
    refine .bind (rejectIterations_passes room parts) fun _ _ => .ite (fun hliteral => ?_) fun _ => ?_
    · have hn := List.all_eq_true.mp hliteral n hn
      rw [htext, hcomment] at hn
      cases hn
    · refine .bind hparts fun es hes => .ite (fun hnil => ?_) fun _ => trivial
      exact absurd (List.isEmpty_iff.mp hnil) hes
  constructor
  · cases hread : readParts room parts (.name []) parts with
    | error fault => exact .inl ⟨fault, rfl⟩
    | ok es =>
      rw [hread] at hparts
      obtain ⟨e, es, rfl⟩ := List.exists_cons_of_ne_nil hparts
      exact .inr ⟨e, es, rfl⟩
  · intro construct hfault
    rw [hfault] at hstyle
    cases hstyle

/-- An expression without a source, after an empty declaration and before a blank. -/
def hidden : List Node :=
  [.comment "c".toList, .text " ; color : ".toList, .encoded [], .text " ".toList]

theorem dynamic_part_leaves_entry_hidden :
    (∃ n ∈ hidden, n.isText = false ∧ n.isComment = false) ∧
      ∃ e es, readParts 0 hidden (.name []) hidden = .ok (e :: es) := by
  have hdynamic : ∃ n ∈ hidden, n.isText = false ∧ n.isComment = false :=
    ⟨.encoded [], by simp [hidden], rfl, rfl⟩
  have hok : (readParts 0 hidden (.name []) hidden).isOk = true := by decide +kernel
  refine ⟨hdynamic, (dynamic_part_leaves_entry hdynamic).1.resolve_left ?_⟩
  rintro ⟨fault, hfault⟩
  rw [hfault] at hok
  cases hok

end Stencil.Lower
