import Stencil.Component
import Stencil.Proofs.Lower.Refusal
import Stencil.Proofs.Node.Clean

/-!
# When a document has a component

A parsed document has a component exactly if no evaluated block comes after the start of its
content, no expression or iteration stands in an attribute area, and every style attribute can be
read (`Document.Supported`). This is what it means for a parsed document that every node in its body
is allowed where it stands (`Document.supported_iff`). Lowering passes over some nodes, but these
are texts and comments, which are allowed everywhere.
-/

namespace Stencil

open Node

theorem Rendering.outcome_bind {α β : Type} (r : Rendering α) (f : α → Rendering β) :
    (r >>= f).outcome = r.outcome >>= fun a => (f a).outcome := by
  obtain ⟨calls, _ | a⟩ := r <;> rfl

namespace Lower

variable {room limit : Nat}

/-! ## Attributes -/

theorem everywhere_of_texts {p : Site} {ns : List Node} (h : ns.all Node.isText = true) :
    Everywhere (Allowed limit) p ns := by
  refine everywhere_of_prose fun n hn => ?_
  rw [List.all_eq_true.mp h n hn, Bool.true_or]

theorem composedValue_settles {parts : List Node} (h : WritableAll room parts) :
    Settles (composedValue room parts) (Everywhere (Allowed limit) .value parts) :=
  .ite everywhere_of_texts fun _ => .map (segments_settles parts h) _

mutual

theorem partValue_settles : ∀ (n : Node) {room : Nat}, Writable room n →
    Settles (partValue room n) (Throughout (Allowed limit) .value n)
  | .encoded _, _, _ | .interpolated _, _, _ => (throughout_leaf rfl).mpr nofun
  | .conditional _ yes no, _, h => by
    obtain ⟨room, rfl, hyes, hno⟩ := writable_conditional h
    refine .congr ?_ allowed_conditional.symm
    refine .ite (fun hempty => ?_) fun _ => .bind (value_settles yes hyes) fun _ =>
      .map (branchValue_settles no hno) _
    rw [List.isEmpty_iff.mp hempty]
    exact .bind everywhere_nil fun _ => .map (branchValue_settles no hno) _
  | .text _, _, h | .comment _, _, h | .evaluated _, _, h | .attribute .., _, h
  | .element .., _, h | .iterator .., _, h | .document _, _, h | .foreign, _, h =>
    .congr (composedValue_settles h.all) everywhere_singleton

theorem value_settles : ∀ (ns : List Node) {room : Nat}, WritableAll room ns →
    Settles (value room ns) (Everywhere (Allowed limit) .value ns)
  | [], _, h => composedValue_settles h
  | [n], _, h =>
    .congr (partValue_settles n (writableAll_cons.mp h).1) everywhere_singleton.symm
  | _ :: _ :: _, _, h => composedValue_settles h

theorem branchValue_settles : ∀ (ns : Option (List Node)) {room : Nat}, WritableBranch room ns →
    Settles (branchValue room ns) (EverywhereBranch (Allowed limit) .value ns)
  | none, _, _ => trivial
  | some ns, _, h => by
    refine .ite (fun hempty => ?_) fun _ => value_settles ns h
    rw [List.isEmpty_iff.mp hempty]
    exact everywhere_nil

end

/-- An attribute is allowed if its parts are and, if it is a style attribute, it can be read. -/
theorem attribute_settles {α : Type} {name : Text} {parts : List Node} {plain : Except Fault α}
    {styled : Jsx.Style → α} (h : WritableAll room parts) (hroom : room ≤ limit)
    (hplain : Settles plain (Everywhere (Allowed limit) .value parts)) :
    Settles (if isStyle name then do let object ← style room parts; .ok (styled object) else plain)
      (Throughout (Allowed limit) .area (.attribute name parts)) := by
  refine .ite (fun hstyle => ?_) fun hstyle => ?_
  · refine .congr (.map (style_settles h hroom) _) ?_
    simp [throughout_attribute, Allowed, hstyle]
  · refine .congr hplain ?_
    simp [throughout_attribute, Allowed, hstyle]

theorem refuseAttribute_settles {α : Type} {c : Prop} {n : Node} (h : Writable room n)
    (hc : ¬ c) : Settles (refuseAttribute room n : Except Fault α) c := by
  unfold refuseAttribute
  split <;> exact refuse_settles h _ hc

theorem property_settles {name : Text} {parts : List Node} (h : WritableAll room parts)
    (hroom : room ≤ limit) :
    Settles (property room name parts)
      (Throughout (Allowed limit) .area (.attribute name parts)) := by
  refine attribute_settles h hroom (.ite (fun hempty => ?_) fun _ => .map (value_settles parts h) _)
  rw [List.isEmpty_iff.mp hempty]
  exact everywhere_nil

mutual

theorem propertiesOf_settles : ∀ (n : Node) {room : Nat}, Writable room n → room ≤ limit →
    Settles (propertiesOf room n) (Throughout (Allowed limit) .area n)
  | .attribute _ _, _, h, hroom => .map (property_settles (writable_attribute.mp h) hroom) _
  | .conditional _ yes no, _, h, hroom => by
    obtain ⟨room, rfl, hyes, hno⟩ := writable_conditional h
    have hroom : room ≤ limit := Nat.le_of_succ_le hroom
    refine .congr ?_ allowed_conditional.symm
    exact .bind (properties_settles yes hyes hroom) fun _ =>
      .map (branchProperties_settles no hno hroom) _
  | .text _, _, _, _ | .comment _, _, _, _ => (throughout_leaf rfl).mpr trivial
  | .encoded _, _, h, _ | .interpolated _, _, h, _ | .evaluated _, _, h, _ | .element .., _, h, _
  | .iterator .., _, h, _ | .document _, _, h, _ | .foreign, _, h, _ => by
    simp only [propertiesOf]
    exact refuseAttribute_settles h fun hn => by simp [Throughout, Allowed] at hn

theorem properties_settles : ∀ (ns : List Node) {room : Nat}, WritableAll room ns →
    room ≤ limit → Settles (properties room ns) (Everywhere (Allowed limit) .area ns)
  | [], _, _, _ => everywhere_nil
  | n :: ns, _, h, hroom => by
    obtain ⟨hn, hns⟩ := writableAll_cons.mp h
    refine .congr ?_ everywhere_cons.symm
    exact .bind (propertiesOf_settles n hn hroom) fun _ => .map (properties_settles ns hns hroom) _

theorem branchProperties_settles : ∀ (ns : Option (List Node)) {room : Nat},
    WritableBranch room ns → room ≤ limit →
      Settles (branchProperties room ns) (EverywhereBranch (Allowed limit) .area ns)
  | none, _, _, _ => trivial
  | some ns, _, h, hroom => properties_settles ns h hroom

end

theorem attributeOf_settles {name : Text} {parts : List Node} (h : WritableAll room parts)
    (hroom : room ≤ limit) :
    Settles (attributeOf room name parts)
      (Throughout (Allowed limit) .area (.attribute name parts)) := by
  refine attribute_settles h hroom ?_
  split
  case h_1 => exact everywhere_nil
  case h_2 | h_3 =>
    exact everywhere_cons.mpr ⟨(throughout_leaf rfl).mpr nofun, everywhere_nil⟩
  case h_4 =>
    exact .ite everywhere_of_texts fun _ => .map (segments_settles _ h) _

theorem spread_settles {test : Text} {yes : List Node} {no : Option (List Node)}
    (h : Writable room (.conditional test yes no)) (hroom : room ≤ limit) :
    Settles (spread room test yes no)
      (Throughout (Allowed limit) .area (.conditional test yes no)) := by
  obtain ⟨room, rfl, hyes, hno⟩ := writable_conditional h
  have hroom : room ≤ limit := Nat.le_of_succ_le hroom
  refine .congr ?_ allowed_conditional.symm
  exact .bind (properties_settles yes hyes hroom) fun _ =>
    .map (branchProperties_settles no hno hroom) _

theorem attributes_settles (hroom : room ≤ limit) {area : List Node} (h : WritableAll room area) :
    Settles (attributes room area) (Everywhere (Allowed limit) .area area) := by
  induction area with
  | nil => exact everywhere_nil
  | cons n ns ih =>
    obtain ⟨hn, hns⟩ := writableAll_cons.mp h
    have hrest := ih hns
    refine .congr ?_ everywhere_cons.symm
    cases n with
    | «attribute» =>
      exact .bind (attributeOf_settles (writable_attribute.mp hn) hroom) fun _ => .map hrest _
    | conditional => exact .bind (spread_settles hn hroom) fun _ => .map hrest _
    | text | comment => exact .congr hrest (and_iff_right ((throughout_leaf rfl).mpr trivial)).symm
    | _ =>
      refine refuseAttribute_settles hn fun hallowed => ?_
      simp [Throughout, Allowed] at hallowed

/-! ## Content -/

theorem prose_of_isBlank {n : Node} (h : n.isBlank = true) :
    (n.isText || n.isComment) = true := by
  cases n with
  | text | comment => rfl
  | _ => cases h

/-- Where text and comments are of no account, it does not matter whether blank nodes are left
out. -/
theorem everywhere_meaningful {P : Site → Node → Prop} {p : Site} {ns : List Node}
    (hP : ∀ {n}, (n.isText || n.isComment) = true → Throughout P p n) :
    Everywhere P p (meaningful ns) ↔ Everywhere P p ns := by
  simp only [everywhere_iff]
  constructor
  · intro h n hn
    by_cases hblank : n.isBlank = true
    · exact hP (prose_of_isBlank hblank)
    · exact h n (List.mem_filter.mpr ⟨hn, by simp [hblank]⟩)
  · intro h n hn
    exact h n (List.mem_filter.mp hn).1

theorem branchOf_settles {ns : List Node} {content : Rendering (List Jsx.Child)}
    (h : Settles content.outcome (Everywhere (Allowed limit) .content ns)) :
    Settles (branchOf ns content).outcome (Everywhere (Allowed limit) .content ns) := by
  unfold branchOf
  dsimp only
  split
  next hempty =>
    refine (everywhere_meaningful throughout_of_prose).mp ?_
    rw [List.isEmpty_iff.mp hempty]
    exact everywhere_nil
  next =>
    split
    next htext => exact (everywhere_meaningful throughout_of_prose).mp (everywhere_of_texts htext)
    next =>
      rw [Rendering.outcome_bind]
      exact .map h _

mutual

theorem child_settles (config : Config) : ∀ (n : Node) {room : Nat}, Writable room n →
    room ≤ limit → Settles (child config room n).outcome (Throughout (Allowed limit) .content n)
  | .text _, _, _, _ | .comment _, _, _, _ => (throughout_leaf rfl).mpr trivial
  | .encoded _, _, _, _ | .interpolated _, _, _, _ => (throughout_leaf rfl).mpr nofun
  | .evaluated _, _, h, _ | .attribute .., _, h, _ => by
    rw [child]
    exact refuse_settles h _ fun hn => by simp [Throughout, Allowed] at hn
  | .element tag area content, _, h, hroom => by
    obtain ⟨room, rfl, harea, hcontent⟩ := writable_element h
    have hroom : room ≤ limit := Nat.le_of_succ_le hroom
    rw [child, Rendering.outcome_bind]
    refine .congr (.bind (attributes_settles hroom harea) fun _ => ?_)
      (throughout_element.trans (and_iff_right rfl)).symm
    split
    next hvoid =>
      rw [List.isEmpty_iff.mp (Bool.and_eq_true_iff.mp hvoid).2]
      exact everywhere_nil
    next =>
      rw [Rendering.outcome_bind]
      have hskip (n : Node) (hn : n.isComment = true) : (n.isText || n.isComment) = true := by
        rw [hn, Bool.or_true]
      exact .map (children_settles config (hskip _) content hcontent hroom) _
  | .conditional _ yes no, _, h, hroom => by
    obtain ⟨room, rfl, hyes, hno⟩ := writable_conditional h
    have hroom : room ≤ limit := Nat.le_of_succ_le hroom
    rw [child, Rendering.outcome_bind]
    have hyes := branchOf_settles (children_settles config prose_of_isBlank yes hyes hroom)
    refine .congr (.bind hyes fun _ => ?_) allowed_conditional.symm
    rw [Rendering.outcome_bind]
    exact .map (elseBranch_settles config no hno hroom) _
  | .iterator _ _ body, _, h, hroom => by
    obtain ⟨room, rfl, hbody⟩ := writable_iterator h
    have hroom : room ≤ limit := Nat.le_of_succ_le hroom
    rw [child, Rendering.outcome_bind]
    have hbody := branchOf_settles (children_settles config prose_of_isBlank body hbody hroom)
    refine .congr (.map hbody _) ?_
    simp [throughout_iterator, Allowed]
  | .document _, _, _, _ | .foreign, _, _, _ => by
    rw [child]
    exact ⟨.inl rfl, fun hn => by simp [Throughout, Allowed] at hn⟩

theorem children_settles (config : Config) {skip : Node → Bool}
    (hskip : ∀ {n}, skip n = true → (n.isText || n.isComment) = true) :
    ∀ (ns : List Node) {room : Nat}, WritableAll room ns → room ≤ limit →
      Settles (children config room skip ns).outcome (Everywhere (Allowed limit) .content ns)
  | [], _, _, _ => everywhere_nil
  | n :: ns, _, h, hroom => by
    obtain ⟨hn, hns⟩ := writableAll_cons.mp h
    have hrest := children_settles config hskip ns hns hroom
    rw [children]
    refine .congr ?_ everywhere_cons.symm
    split
    next hn => exact .congr hrest (and_iff_right (throughout_of_prose (hskip hn))).symm
    next =>
      rw [Rendering.outcome_bind]
      refine .bind (child_settles config n hn hroom) fun _ => ?_
      rw [Rendering.outcome_bind]
      exact .map hrest _

theorem elseBranch_settles (config : Config) : ∀ (ns : Option (List Node)) {room : Nat},
    WritableBranch room ns → room ≤ limit →
      Settles (elseBranch config room ns).outcome (EverywhereBranch (Allowed limit) .content ns)
  | none, _, _, _ => trivial
  | some ns, _, h, hroom =>
    branchOf_settles (children_settles config prose_of_isBlank ns h hroom)

end

end Lower

/-! ## Documents -/

namespace Document

open Lower

theorem lower_settles (config : Config) {limit : Nat} {d : Document}
    (h : WritableAll limit (body d)) :
    Settles (lower config limit d).outcome (Everywhere (Allowed limit) .content (body d)) := by
  unfold lower
  split
  next iterable binder content hsiblings =>
    have hn : Node.iterator iterable binder content ∈ body d := by
      have hmem : Node.iterator iterable binder content ∈ meaningful (body d) := by simp [hsiblings]
      exact (List.mem_filter.mp hmem).1
    rw [Rendering.outcome_bind]
    refine .congr (.map (child_settles config _ (writableAll_iff.mp h _ hn) (Nat.le_refl _)) _) ?_
    rw [← everywhere_meaningful throughout_of_prose, hsiblings]
    exact everywhere_singleton.symm
  next =>
    exact branchOf_settles (children_settles config prose_of_isBlank (body d) h (Nat.le_refl _))

end Document

namespace Node

mutual

theorem hasForeign_of_placed {z : Zone} : ∀ n : Node, Placed z n → hasForeign n = false
  | .text _, _ | .comment _, _ | .encoded _, _ | .interpolated _, _ | .evaluated _, _ => rfl
  | .attribute _ parts, h => by
    cases z with
    | content | value => exact h.elim
    | area tag =>
      rcases h.2 with rfl | h
      · rfl
      · exact anyForeign_of_placed parts h
  | .element _ attributes children, ⟨_, _, ha, hc, _⟩ => by
    rw [hasForeign, anyForeign_of_placed attributes ha, anyForeign_of_placed children hc]
    rfl
  | .iterator _ _ children, h => anyForeign_of_placed children h.2
  | .conditional _ children alternate, ⟨_, hc, ha⟩ => by
    rw [hasForeign, anyForeign_of_placed children hc, branchForeign_of_placed alternate ha]
    rfl

theorem anyForeign_of_placed {z : Zone} : ∀ ns : List Node, PlacedAll z ns → anyForeign ns = false
  | [], _ => rfl
  | n :: ns, h => by
    rw [anyForeign, hasForeign_of_placed n h.1, anyForeign_of_placed ns h.2]
    rfl

theorem branchForeign_of_placed {z : Zone} : ∀ ns : Option (List Node), PlacedBranch z ns →
    branchForeign ns = false
  | none, _ => rfl
  | some ns, h => anyForeign_of_placed ns h

end

/-- The statements of an evaluated block. -/
def code? : Node → Option Text
  | .evaluated code => some code
  | _ => none

/-- Whether a node is an expression or an iteration, which cannot stand for attributes. -/
def yieldsContent : Node → Bool
  | .encoded _ | .interpolated _ | .iterator .. => true
  | _ => false

end Node

namespace Document

open Lower

theorem body_subset (d : Document) : body d ⊆ d :=
  (List.dropWhile_sublist isPrelude).subset

/-- There is nothing inside the nodes before the body. -/
theorem inside_body {d : Document} {q : Site} {ms : List Node} (hi : Inside .content d q ms) :
    (q = .content ∧ ms = d) ∨ Inside .content (body d) q ms := by
  cases hi with
  | here => exact .inl ⟨rfl, rfl⟩
  | @within _ _ _ _ _ _ n hn hg hi =>
    rw [← List.takeWhile_append_dropWhile (p := isPrelude) (l := d)] at hn
    rcases List.mem_append.mp hn with hn | hn
    · have hprelude := List.all_eq_true.mp List.all_takeWhile n hn
      cases n with
      | text | comment | evaluated => cases hg
      | _ => cases hprelude
    · exact .inr (.within hn hg hi)

/-- A document that has a component, if it is nested up to the limit. -/
structure Supported (limit : Nat) (d : Document) : Prop where
  /-- Evaluated blocks stand only among the nodes before the body. -/
  evaluations : ∀ {p ns code}, Inside .content (d.dropWhile isPrelude) p ns → .evaluated code ∉ ns
  /-- In an attribute area, conditionals included, there is no expression and no iteration. -/
  areas : ∀ {ns n}, Inside .content d .area ns → n ∈ ns → n.yieldsContent = false
  /-- Every style attribute can be read. -/
  styles : ∀ {p ns name parts}, Inside .content d p ns → .attribute name parts ∈ ns →
    isStyle name = true → ∃ object, style limit parts = .ok object

theorem supported_iff {limit : Nat} {d : Document} (hd : PlacedAll .content d) :
    Supported limit d ↔ Everywhere (Allowed limit) .content (body d) := by
  constructor
  · intro h q ms hi n hn
    obtain ⟨ms', hi', hms⟩ := hi.mono (body_subset d)
    rcases placed_of_inside hd rfl hi' (hms hn) with ⟨-, rfl⟩ | ⟨z, rfl, hplaced⟩
    · trivial
    cases n with
    | text | comment | conditional => trivial
    | encoded | interpolated | iterator =>
      intro harea
      rw [harea] at hi'
      cases h.areas hi' (hms hn)
    | evaluated => exact h.evaluations hi hn
    | «attribute» =>
      cases z with
      | area => exact ⟨rfl, h.styles hi' (hms hn)⟩
      | content | value => exact hplaced.elim
    | element => exact hplaced.1 ▸ rfl
    | document | foreign => exact hplaced.elim
  · intro h
    refine ⟨fun hi hn => h _ _ hi _ hn, ?_, ?_⟩
    · intro ns n hi hn
      rcases inside_body hi with ⟨hq, -⟩ | hi
      · cases hq
      · have hallowed := h _ _ hi n hn
        cases n with
        | encoded | interpolated | iterator => exact (hallowed rfl).elim
        | _ => rfl
    · intro p ns name parts hi hn
      rcases inside_body hi with ⟨-, rfl⟩ | hi
      · exact (placed_of_mem hd hn : Placed .content (.attribute name parts)).elim
      · exact (h _ _ hi _ hn).2

/-- A parsed document that is not nested too deeply has a component exactly if it is supported. The
statements before its body are hoisted, and it is refused as unsupported or for its style
attributes. -/
theorem toComponent_iff_supported (config : Config) {limit : Nat} {t : Text} {d : Document}
    (h : parse t = .ok d) (hfit : allFit limit d = true) :
    ((∃ c, toComponent config d limit = .ok c) ↔ Supported limit d) ∧
    (∀ c, toComponent config d limit = .ok c →
      c.hoisted = (d.takeWhile isPrelude).filterMap Node.code?) ∧
    ∀ fault, toComponent config d limit = .error fault →
      fault.kind = .unsupported ∨ fault.kind = .style := by
  have hplaced := placed_of_parse h
  have hd : WritableAll limit d := ⟨hfit, anyForeign_of_placed d hplaced⟩
  have hbody : WritableAll limit (body d) :=
    writableAll_iff.mpr fun n hn => writableAll_iff.mp hd n (body_subset d hn)
  have hsettles := lower_settles config hbody
  rw [supported_iff hplaced]
  unfold toComponent assemble
  cases hlower : (lower config limit d).outcome with
  | ok x =>
    rw [hlower] at hsettles
    refine ⟨⟨fun _ => hsettles, fun _ => ⟨_, rfl⟩⟩, ?_, ?_⟩
    · intro c hc
      cases hc
      rfl
    · intro fault hfault
      cases hfault
  | error fault =>
    rw [hlower] at hsettles
    refine ⟨⟨?_, fun hallowed => (hsettles.2 hallowed).elim⟩, ?_, ?_⟩
    · rintro ⟨c, hc⟩
      cases hc
    · intro c hc
      cases hc
    · intro other hother
      cases hother
      exact hsettles.1

/-- A statement, a style with an expression in it, an attribute under a condition, and content. -/
def card : Document :=
  [.evaluated "let n".toList, .text [' '],
    .element ['p']
      [.attribute "style".toList [.text "top:".toList, .encoded ['n']],
        .conditional ['x'] [.attribute ['b'] []] none]
      [.iterator ['m'] ⟨['i'], none⟩ [.interpolated ['i']]]]

def cardTemplate : Text :=
  "\x7b\x7b let n \x7d\x7d <p style=\"top:\x7b\x7b! n \x7d\x7d\" ".toList ++
    "\x7b\x7b? x\x7d\x7db\x7b\x7b?\x7d\x7d>".toList ++
    "\x7b\x7b~ m :i\x7d\x7d\x7b\x7b= i \x7d\x7d\x7b\x7b~\x7d\x7d</p>".toList

theorem toComponent_card : parse cardTemplate = .ok card ∧ allFit 2 card = true ∧
    Supported 2 card ∧ ∃ c, toComponent {} card 2 = .ok c ∧ c.hoisted = ["let n".toList] := by
  have h : parse cardTemplate = .ok card := by with_unfolding_all rfl
  have hfit : allFit 2 card = true := rfl
  obtain ⟨hiff, hhoisted, -⟩ := toComponent_iff_supported {} h hfit
  have hok : ∃ c, toComponent {} card 2 = .ok c := by
    with_unfolding_all exact ⟨_, rfl⟩
  obtain ⟨c, hc⟩ := hok
  exact ⟨h, hfit, hiff.mp ⟨c, hc⟩, c, hc, hhoisted c hc⟩

end Document

end Stencil
