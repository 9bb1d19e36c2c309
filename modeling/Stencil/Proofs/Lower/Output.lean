import Stencil.Proofs.Lower.Render
import Stencil.Proofs.Lower.Room
import Stencil.Proofs.Output

/-!
# Lowering keeps the output

A document and the markup it is lowered to have the same output under every interpretation. A child
stands for its node wherever the node stands; an expression stands for a branch, whichever of its
forms the siblings in the branch select. The text that is rendered for a document is this markup in
print (`rendered_text_puts_out`).
-/

namespace Stencil

variable {Env Value Setting : Type} (I : Interpretation Env Value Setting) {config : Config}
  {limit : Nat}

theorem Interpretation.call_params (env : Env) (binder : Binder) (value : Value) (i : Nat) :
    I.call env (Lower.params binder) [value, I.index i] = I.enter env binder value i := by
  unfold call enter Lower.params
  cases binder.namedIndex? <;> rfl

theorem Jsx.Expr.items_ofChildren (env : Env) (children : List Jsx.Child) :
    (Jsx.Expr.ofChildren children).items I env = Jsx.Child.itemsAll I env children := by
  unfold Jsx.Expr.ofChildren
  split
  · next child =>
    rw [Jsx.Child.itemsAll, Jsx.Child.itemsAll, List.append_nil]
    cases child <;> rfl
  · rw [Jsx.Expr.items]

/-! ## Branches -/

namespace Node

theorem itemsAll_isBlank (env : Env) (ns : List Node) :
    itemsAll I config limit env isBlank ns =
      (meaningful ns).flatMap (items I config limit env) := by
  induction ns with
  | nil => rfl
  | cons n ns ih =>
    rw [itemsAll, ih]
    cases h : n.isBlank <;> simp [meaningful, h]

theorem branchItems_prose (env : Env) {ns : List Node} (h : isProse ns = true) :
    branchItems I config limit env ns = itemsAll I config limit env isComment ns := by
  rw [branchItems, isLayout, if_pos h]

theorem branchItems_not_prose (env : Env) {ns : List Node} (h : isProse ns = false) :
    branchItems I config limit env ns = itemsAll I config limit env isBlank ns := by
  rw [branchItems, isLayout, if_neg (Bool.not_eq_true _ ▸ h)]

theorem isText_or_isComment (n : Node) : (n.isText || n.isComment) = (n.isBlank || n.isText) := by
  cases n <;> simp [isText, isComment, isBlank]

theorem isProse_eq (ns : List Node) :
    isProse ns = (!(meaningful ns).isEmpty && (meaningful ns).all isText) := by
  have hall : (meaningful ns).all isText = ns.all fun n => n.isText || n.isComment := by
    simp [meaningful, List.all_filter, isText_or_isComment]
  have hempty : (meaningful ns).isEmpty = ns.all isBlank := by
    rw [Bool.eq_iff_iff, List.isEmpty_iff]
    simp [meaningful]
  rw [isProse, hall, hempty, Bool.and_comm]

/-- Nodes that are text and comments only put out their text. -/
theorem alike_literalText (env : Env) {ns : List Node}
    (h : ∀ n ∈ ns, (n.isText || n.isComment) = true) :
    Item.Alike [.text (literalText ns)] (itemsAll I config limit env isComment ns) := by
  induction ns with
  | nil => rfl
  | cons n ns ih =>
    have ih := ih fun m hm => h m (List.mem_cons_of_mem n hm)
    have hn := h n List.mem_cons_self
    cases n with
    | text value =>
      rw [itemsAll]
      exact .trans (.text_append value (literalText ns)) (.append (.refl [.text value]) ih)
    | comment value => exact ih
    | _ => cases hn

end Node

namespace Lower

open Item (Alike)

variable {env : Env}

theorem branchOf_alike {ns : List Node} {content : Rendering (List Jsx.Child)} {x : Jsx.Expr}
    (hx : (branchOf ns content).outcome = .ok x)
    (hcontent : ∀ cs, content.outcome = .ok cs →
      Alike (Jsx.Child.itemsAll I env cs) (Node.itemsAll I config limit env Node.isBlank ns)) :
    Alike (x.items I env) (Node.branchItems I config limit env ns) := by
  unfold branchOf at hx
  dsimp only at hx
  split at hx
  · next hempty =>
    cases hx
    have hprose : Node.isProse ns = false := by simp [Node.isProse_eq, hempty]
    rw [Node.branchItems_not_prose I env hprose, Node.itemsAll_isBlank, List.isEmpty_iff.mp hempty]
    exact .refl []
  · next hempty =>
    split at hx
    · next htext =>
      cases hx
      have hprose : Node.isProse ns = true := by simp [Node.isProse_eq, hempty, htext]
      rw [Node.branchItems_prose I env hprose]
      exact Node.alike_literalText I env (List.all_eq_true.mp (Bool.and_eq_true_iff.mp hprose).1)
    · next htext =>
      obtain ⟨cs, hcs, hx⟩ := Rendering.outcome_bind_eq_ok.mp hx
      cases hx
      have hprose : Node.isProse ns = false := by simp [Node.isProse_eq, htext]
      rw [Node.branchItems_not_prose I env hprose, Jsx.Expr.items_ofChildren]
      exact hcontent cs hcs

theorem attributesOf_eq {room : Nat} {area : List Node} {attributes : List Jsx.Attribute}
    (hroom : room ≤ limit) (h : Lower.attributes room area = .ok attributes) :
    Node.attributesOf limit area = attributes := by
  rw [Node.attributesOf, (attributes_keeps hroom area).eq_ok h]

theorem ofOutcome_refuse_ne_ok {α : Type} {room : Nat} {misuse : Misuse} {n : Node} {a : α} :
    (Rendering.ofOutcome (refuse room misuse n)).outcome ≠ .ok a := by
  unfold Rendering.ofOutcome refuse
  split <;> exact nofun

-- The induction is on the tree. Room only becomes less on the way down, so it stays below the limit
-- with which the attributes of a tree are taken.
mutual

theorem child_alike : ∀ (n : Node) {room : Nat} {c : Jsx.Child}, room ≤ limit →
    (child config room n).outcome = .ok c → ∀ env,
      Alike (c.items I env) (n.items I config limit env)
  | .text _, _, _, _, h, _ | .encoded _, _, _, _, h, _ | .interpolated _, _, _, _, h, _ => by
    cases h
    exact .refl _
  | .comment _, _, _, _, h, _ => by
    cases h
    rfl
  | .evaluated _, _, _, _, h, _ | .attribute .., _, _, _, h, _ =>
    (ofOutcome_refuse_ne_ok h).elim
  | .element tag area content, 0, _, _, h, _ => nomatch h
  | .element tag area content, room + 1, c, hroom, h, env => by
    obtain ⟨attributes, hattributes, h⟩ := Rendering.outcome_bind_eq_ok.mp h
    have hroom := Nat.le_of_succ_le hroom
    rw [Node.items, attributesOf_eq hroom hattributes]
    split at h
    · next hvoid =>
      cases h
      rw [if_pos hvoid]
      rfl
    · next hvoid =>
      obtain ⟨children, hchildren, h⟩ := Rendering.outcome_bind_eq_ok.mp h
      cases h
      rw [if_neg hvoid, ← children_alike content hroom hchildren env]
      rfl
  | .conditional .., 0, _, _, h, _ => nomatch h
  | .conditional test primary alternate, room + 1, c, hroom, h, env => by
    have hroom := Nat.le_of_succ_le hroom
    obtain ⟨yes, hyes, h⟩ := Rendering.outcome_bind_eq_ok.mp h
    obtain ⟨no, hno, h⟩ := Rendering.outcome_bind_eq_ok.mp h
    cases h
    rw [Jsx.Child.items, Jsx.Expr.items, Node.items]
    split
    · exact branchOf_alike I hyes fun cs hcs => children_alike primary hroom hcs env
    · exact elseBranch_alike alternate hroom hno env
  | .iterator .., 0, _, _, h, _ => nomatch h
  | .iterator iterable binder content, room + 1, c, hroom, h, env => by
    have hroom := Nat.le_of_succ_le hroom
    obtain ⟨body, hbody, h⟩ := Rendering.outcome_bind_eq_ok.mp h
    cases h
    rw [Jsx.Child.items, Jsx.Expr.items, Node.items]
    refine .flatMap (fun ⟨value, i⟩ => ?_) _
    dsimp only
    rw [I.call_params]
    exact branchOf_alike I hbody fun cs hcs => children_alike content hroom hcs _
  | .document _, _, _, _, h, _ | .foreign, _, _, _, h, _ => nomatch h

theorem children_alike : ∀ (ns : List Node) {skip : Node → Bool} {room : Nat}
    {cs : List Jsx.Child}, room ≤ limit →
    (children config room skip ns).outcome = .ok cs → ∀ env,
      Alike (Jsx.Child.itemsAll I env cs) (Node.itemsAll I config limit env skip ns)
  | [], _, _, _, _, h, _ => by
    cases h
    exact .refl _
  | n :: ns, skip, room, cs, hroom, h, env => by
    rw [children] at h
    rw [Node.itemsAll]
    split at h
    · next hskip =>
      rw [if_pos hskip]
      exact children_alike ns hroom h env
    · next hskip =>
      obtain ⟨first, hfirst, h⟩ := Rendering.outcome_bind_eq_ok.mp h
      obtain ⟨rest, hrest, h⟩ := Rendering.outcome_bind_eq_ok.mp h
      cases h
      rw [if_neg hskip, Jsx.Child.itemsAll]
      exact .append (child_alike n hroom hfirst env) (children_alike ns hroom hrest env)

theorem elseBranch_alike : ∀ (ns : Option (List Node)) {room : Nat} {x : Jsx.Expr},
    room ≤ limit → (elseBranch config room ns).outcome = .ok x → ∀ env,
      Alike (x.items I env) (Node.itemsElse I config limit env ns)
  | none, _, _, _, h, _ => by
    cases h
    exact .refl _
  | some ns, _, _, hroom, h, env =>
    branchOf_alike I h fun cs hcs => children_alike ns hroom hcs env

end

end Lower

/-! ## Documents -/

namespace Document

open Item (Alike)

/-- The statements at the start of a document run in order, and the rest is a branch. -/
theorem items_eq (document : Document) (env : Env) :
    items I config limit env document =
      Node.branchItems I config limit ((hoisted document).foldl I.run env) (body document) := by
  induction document generalizing env with
  | nil => rfl
  | cons n ns ih =>
    cases n with
    | evaluated code => exact ih (I.run env code)
    | comment value => exact ih env
    | text value =>
      have ih := ih env
      cases hblank : Text.allBlank value <;>
        simp_all [items, hoisted, body, isPrelude, Node.isBlank]
    | _ => rfl

theorem lower_alike {document : Document} {x : Jsx.Expr}
    (h : (lower config limit document).outcome = .ok x) (env : Env) :
    Alike (x.items I env) (Node.branchItems I config limit env (body document)) := by
  unfold lower at h
  split at h
  · next iterable binder content hbody =>
    obtain ⟨only, honly, h⟩ := Rendering.outcome_bind_eq_ok.mp h
    cases h
    have hprose : Node.isProse (body document) = false := by
      rw [Node.isProse_eq, hbody]
      rfl
    rw [Node.branchItems_not_prose I env hprose, Node.itemsAll_isBlank, hbody]
    exact .append (Lower.child_alike I _ (Nat.le_refl _) honly env) (.refl [])
  · exact Lower.branchOf_alike I h fun cs hcs =>
      Lower.children_alike I (body document) (Nat.le_refl _) hcs env

/-- The markup of a document, after the hoisted statements have run, puts out what the document
does. -/
theorem output_lower {document : Document} {x : Jsx.Expr}
    (h : (lower config limit document).outcome = .ok x) (env : Env) :
    x.output I ((hoisted document).foldl I.run env) = output I config limit env document := by
  rw [output, items_eq]
  exact lower_alike I h _

/-- The text that is rendered for a document is the print of an expression, which is also that of
the component. In every environment, after the hoisted statements have run, the expression puts out
what the document does. -/
theorem rendered_text_puts_out {document : Document} {text : Text}
    (h : (render config limit document).outcome = .ok text) :
    ∃ x : Jsx.Expr, text = x.print ∧
      (∃ c, toComponent config document limit = .ok c ∧ c.expression = x) ∧
      ∀ {Env Value Setting : Type} (I : Interpretation Env Value Setting) (env : Env),
        x.output I ((hoisted document).foldl I.run env) = output I config limit env document := by
  rw [render_eq] at h
  obtain ⟨x, hx, rfl⟩ := Rendering.outcome_map_eq_ok.mp h
  refine ⟨x, rfl, ?_, fun I env => output_lower I hx env⟩
  rw [toComponent, assemble, hx]
  exact ⟨_, rfl, rfl⟩

/-- Sources that are names, in environments that give them numbers. A list is given by its length,
and a name that is run becomes two. -/
def numbers : Interpretation (List (Text × Nat)) Nat Text where
  holds env test := (env.lookup test).any (0 < ·)
  list env iterable := List.range ((env.lookup iterable).getD 0)
  value env source := (env.lookup source).getD 0
  index i := i
  bind env name value := (name, value) :: env
  run env code := (code, 2) :: env
  setting _ a := a.print

/-- A document whose only content is an iteration, after a statement. -/
def rows : Document :=
  [.evaluated "rows".toList, .text " ".toList,
   .iterator "rows".toList ⟨"row".toList, some "i".toList⟩
     [.text " ".toList,
      .element "li".toList [.attribute "class".toList [.text "a".toList]] [.encoded "row".toList],
      .conditional "i".toList [.text " last".toList, .comment [], .text "!".toList] none]]

/-- The text that is rendered for `rows`. -/
def rowsText : Text :=
  ("<>\x7brows?.map((row, i) => (<><li className=\"a\">\x7brow\x7d</li>" ++
    "\x7bi ? \" last!\" : null\x7d</>))\x7d</>").toList

theorem rendered_text_puts_out_rows :
    (render {} 2 rows).outcome = .ok rowsText ∧ ∃ x : Jsx.Expr, rowsText = x.print ∧
      x.output numbers ((hoisted rows).foldl numbers.run []) = output numbers {} 2 [] rows ∧
      output numbers {} 2 [] rows =
        [.element "li".toList ["className=\"a\"".toList] (some [.encoded 0]),
         .element "li".toList ["className=\"a\"".toList] (some [.encoded 1]),
         .text " last!".toList] := by
  have hrender : (render {} 2 rows).outcome = .ok rowsText := rfl
  obtain ⟨x, hx, -, houtput⟩ := rendered_text_puts_out hrender
  exact ⟨hrender, x, hx, houtput numbers [], rfl⟩

end Document

end Stencil
