import Stencil.Component

/-!
# Rendered text is printed markup

`Document.render` writes text and is told by a flag whether a node stands by itself or inside
markup. `Document.lower` builds a term, in which a child and an expression are of different types. A
node is rendered as its child is printed in either place (`Lower.renderNode_eq`), a branch as its
expression is printed (`Lower.branchText_eq`), and a document as its markup is printed
(`Document.render_eq`), faults and calls of the markup parser included.
-/

namespace Stencil

/-! ## Renderings -/

namespace Rendering

variable {α β γ : Type} {r : Rendering α}

theorem map_id (r : Rendering α) : id <$> r = r := by
  obtain ⟨calls, _ | a⟩ := r
  · rfl
  · exact congrArg (Rendering.mk · (.ok a)) (Bool.or_false calls)

theorem bind_assoc (r : Rendering α) (f : α → Rendering β) (g : β → Rendering γ) :
    r >>= f >>= g = r >>= fun a => f a >>= g := by
  obtain ⟨calls, _ | a⟩ := r
  · rfl
  · show bind (bind ⟨calls, .ok a⟩ f) g = bind ⟨calls, .ok a⟩ fun a => bind (f a) g
    simp only [bind]
    cases (f a).outcome with
    | error fault => rfl
    | ok b => exact congrArg (Rendering.mk · _) (Bool.or_assoc ..)

instance : LawfulMonad Rendering := .mk' _ map_id (fun _ _ => rfl) bind_assoc

theorem outcome_bind_eq_ok {f : α → Rendering β} {b : β} :
    (r >>= f).outcome = .ok b ↔ ∃ a, r.outcome = .ok a ∧ (f a).outcome = .ok b := by
  obtain ⟨calls, _ | a⟩ := r
  · exact ⟨nofun, nofun⟩
  · exact ⟨fun h => ⟨a, rfl, h⟩, fun ⟨_, rfl, h⟩ => h⟩

theorem outcome_map_eq_ok {f : α → β} {b : β} :
    (f <$> r).outcome = .ok b ↔ ∃ a, r.outcome = .ok a ∧ f a = b := by
  rw [map_eq_pure_bind, outcome_bind_eq_ok]
  refine exists_congr fun a => and_congr_right fun _ => ?_
  exact ⟨Except.ok.inj, congrArg Except.ok⟩

/-- What is made of an outcome matters only for the outcome there is. -/
theorem map_congr_of_outcome {f g : α → β} (h : ∀ a, r.outcome = .ok a → f a = g a) :
    f <$> r = g <$> r := by
  obtain ⟨calls, _ | a⟩ := r
  · rfl
  · show Rendering.mk (calls || false) (.ok (f a)) = Rendering.mk (calls || false) (.ok (g a))
    rw [h a rfl]

end Rendering

namespace Jsx

/-- A child by itself, or inside markup. -/
def Child.printAs (bare : Bool) (c : Child) : Text := if bare then c.bare.print else c.print

theorem Child.printAs_element (bare : Bool) (e : Element) :
    printAs bare (.element e) = e.print := by
  cases bare <;> rfl

theorem Child.printAs_expression (bare : Bool) (x : Expr) :
    printAs bare (.expression x) = Lower.wrap bare x.print := by
  cases bare <;> rfl

theorem Child.flatMap_printAs_false (cs : List Child) :
    cs.flatMap (printAs false) = printAll cs := by
  induction cs with
  | nil => rfl
  | cons c cs ih => rw [List.flatMap_cons, ih, printAll]; rfl

theorem Expr.print_ofChildren_singleton {cs : List Child} (h : cs.length = 1) :
    (ofChildren cs).print = cs.flatMap (Child.printAs true) := by
  obtain ⟨c, rfl⟩ := List.length_eq_one_iff.mp h
  exact (List.append_nil _).symm

theorem Expr.print_ofChildren_several {cs : List Child} (h : cs.length ≠ 1) :
    (ofChildren cs).print = Lower.fragmentText (cs.flatMap (Child.printAs false)) := by
  rw [Child.flatMap_printAs_false]
  unfold ofChildren
  split
  · exact absurd rfl h
  · rw [print, Lower.fragmentText]

end Jsx

/-! ## Nodes -/

namespace Lower

open Jsx (Child Expr)

variable {config : Config}

theorem map_refuse {α β : Type} (f : α → β) (room : Nat) (misuse : Misuse) (n : Node) :
    f <$> Rendering.ofOutcome (refuse room misuse n) = .ofOutcome (refuse room misuse n) := by
  unfold refuse
  split <;> rfl

/-- The nodes that are not skipped have one child each. -/
theorem length_children {room : Nat} {skip : Node → Bool} {ns : List Node} {cs : List Child}
    (h : (children config room skip ns).outcome = .ok cs) :
    cs.length = (ns.filter fun n => !skip n).length := by
  induction ns generalizing cs with
  | nil =>
    cases h
    rfl
  | cons n ns ih =>
    rw [children] at h
    cases hskip : skip n with
    | true =>
      rw [hskip, if_pos rfl] at h
      rw [List.filter_cons_of_neg (by rw [hskip]; decide), ih h]
    | false =>
      rw [hskip, if_neg Bool.false_ne_true] at h
      obtain ⟨first, -, h⟩ := Rendering.outcome_bind_eq_ok.mp h
      obtain ⟨rest, hrest, h⟩ := Rendering.outcome_bind_eq_ok.mp h
      cases h
      rw [List.filter_cons_of_pos (by rw [hskip]; rfl), List.length_cons, List.length_cons,
        ih hrest]

/-- A branch is rendered as its expression is printed, if its nodes are rendered as the children are
printed. Whether the only child stands by itself is told by the flag on one side, and on the other
by how many children there are. -/
theorem branchText_eq {ns : List Node} {room : Nat} {content : Bool → Rendering Text}
    (h : ∀ bare, content bare =
      (fun cs => cs.flatMap (Child.printAs bare)) <$> children config room Node.isBlank ns) :
    branchText ns content = Expr.print <$> branchOf ns (children config room Node.isBlank ns) := by
  unfold branchText branchOf
  dsimp only
  split
  · rfl
  · split
    · rfl
    · have hlength (cs : List Child)
          (hcs : (children config room Node.isBlank ns).outcome = .ok cs) :
          cs.length = (Node.meaningful ns).length := length_children hcs
      rw [map_bind]
      simp only [map_pure, h]
      split
      next hone =>
        rw [bind_pure_comp]
        refine Rendering.map_congr_of_outcome fun cs hcs => ?_
        exact (Expr.print_ofChildren_singleton ((hlength cs hcs).trans hone)).symm
      next hseveral =>
        rw [bind_map_left, bind_pure_comp, bind_pure_comp]
        refine Rendering.map_congr_of_outcome fun cs hcs => ?_
        have hne : cs.length ≠ 1 := fun hone => hseveral ((hlength cs hcs).symm.trans hone)
        exact (Expr.print_ofChildren_several hne).symm

theorem skip_isBlank {n : Node} (h : n.isComment = true) : n.isBlank = true := by
  cases n with
  | comment => rfl
  | _ => cases h

-- The induction is on the tree. A comment by itself would be an empty string as a child, and is
-- nothing as text; a node that is rendered by itself is no comment, since those are skipped.
mutual

theorem renderNode_eq : ∀ (n : Node) {room : Nat} {bare : Bool},
    (bare = true → n.isComment = false) →
    renderNode config room bare n = Child.printAs bare <$> child config room n
  | .text _, _, bare, _ => by cases bare <;> rfl
  | .comment _, _, true, h => nomatch h rfl
  | .comment _, _, false, _ => rfl
  | .encoded _, _, bare, _ => by cases bare <;> rfl
  | .interpolated _, _, bare, _ => by cases bare <;> rfl
  | .evaluated _, _, _, _ | .attribute .., _, _, _ => (map_refuse ..).symm
  | .element .., 0, _, _ | .conditional .., 0, _, _ | .iterator .., 0, _, _ => rfl
  | .element tag area content, room + 1, bare, _ => by
    rw [renderNode, child, map_bind]
    refine bind_congr fun attributes => ?_
    dsimp only
    split
    · rw [map_pure, Child.printAs_element, Jsx.Element.print]
    · have hcontent : renderNodes config room false Node.isComment content = Child.printAll <$>
          children config room Node.isComment content := by
        rw [renderNodes_eq content fun _ => id]
        simp only [Child.flatMap_printAs_false]
      rw [hcontent, bind_map_left, map_bind]
      refine bind_congr fun cs => ?_
      rw [map_pure, Child.printAs_element, Jsx.Element.print]
  | .conditional test primary alternate, room + 1, bare, _ => by
    rw [renderNode, child, map_bind,
      branchText_eq fun bare => renderNodes_eq primary fun _ => skip_isBlank, bind_map_left]
    refine bind_congr fun yes => ?_
    rw [map_bind, renderElse_eq alternate, bind_map_left]
    refine bind_congr fun no => ?_
    rw [map_pure, Child.printAs_expression, Expr.print]
  | .iterator iterable binder content, room + 1, bare, _ => by
    rw [renderNode, child, map_bind,
      branchText_eq fun bare => renderNodes_eq content fun _ => skip_isBlank, bind_map_left]
    refine bind_congr fun body => ?_
    rw [map_pure, Child.printAs_expression, Expr.print]
  | .document _, _, _, _ | .foreign, _, _, _ => rfl

theorem renderNodes_eq : ∀ (ns : List Node) {room : Nat} {bare : Bool} {skip : Node → Bool},
    (∀ n : Node, n.isComment = true → skip n = true) →
    renderNodes config room bare skip ns =
      (fun cs => cs.flatMap (Child.printAs bare)) <$> children config room skip ns
  | [], _, _, _, _ => rfl
  | n :: ns, room, bare, skip, hskip => by
    rw [renderNodes, children]
    split
    · exact renderNodes_eq ns hskip
    next hn =>
      have hcomment : bare = true → n.isComment = false := fun _ =>
        Bool.eq_false_iff.mpr fun hcomment => hn (hskip n hcomment)
      rw [renderNode_eq n hcomment, bind_map_left, map_bind]
      refine bind_congr fun first => ?_
      rw [renderNodes_eq ns hskip, bind_map_left, map_bind]
      refine bind_congr fun rest => ?_
      rw [map_pure, List.flatMap_cons]

theorem renderElse_eq : ∀ (ns : Option (List Node)) {room : Nat},
    renderElse config room ns = Expr.print <$> elseBranch config room ns
  | none, _ => rfl
  | some ns, _ => branchText_eq fun _ => renderNodes_eq ns fun _ => skip_isBlank

end

theorem renderBranch_eq (room : Nat) (ns : List Node) :
    renderBranch config room ns = Expr.print <$> branch config room ns :=
  branchText_eq fun _ => renderNodes_eq ns fun _ => skip_isBlank

end Lower

/-! ## Documents -/

/-- A document is rendered as its markup is printed. -/
theorem Document.render_eq (config : Config) (limit : Nat) (document : Document) :
    render config limit document = Jsx.Expr.print <$> lower config limit document := by
  unfold render lower
  split
  · rw [Lower.renderNode_eq _ fun _ => rfl, bind_map_left, map_bind]
    refine bind_congr fun only => ?_
    rw [map_pure, Jsx.Expr.print, Jsx.Child.printAll, Jsx.Child.printAll, List.append_nil]
    rfl
  · exact Lower.renderBranch_eq limit (body document)

end Stencil
