import Stencil.Proofs.Event.Header
import Stencil.Proofs.Jsx.Script
import Stencil.Proofs.Lower.Render

/-!
# The expression of a directive as an operand

The expression of an iteration is written in front of `?.map(..)`, and the one of a condition in
front of ` ? .. : ..`, as the author wrote it. Read back, the call belongs to the last operand of
the expression, and the question mark to its last alternative. So an iteration is over the whole
expression if and only if no operator of it stands outside of parentheses, and a condition tests the
whole expression if and only if it is not a choice itself (`directive_operand_iff`).
-/

namespace Stencil.Lower

open Jsx (Child Expr Script inBraces)
open Jsx.Script
open Text

variable {config : Config} {room : Nat} {e : Script} {source : Text}

/-! ## Reading the written code -/

theorem isNameChar_of_directive {c : Char} (h : Directive.isNameChar c = true) :
    Script.isNameChar c = true := by
  rw [Script.isNameChar, h]
  rfl

theorem lex_mapCall {params : List Text} (hparams : ∀ n ∈ params, Directive.IsName n) :
    lex ("?.map((".toList ++ (joinWith ", ".toList params ++ ") => (null))".toList)) =
      some (callTokens params (Script.tokens .null 0)) := by
  obtain ⟨-, hstart, hend, -⟩ := lex_literals
  have hjoined : lex (joinWith ", ".toList params) = some (paramTokens params) :=
    lex_joined fun n hn =>
      ⟨(hparams n hn).1, fun c hc => isNameChar_of_directive ((hparams n hn).2 c hc)⟩
  have hrest := lex_append_of_head hjoined hend rfl (by decide)
  rw [lex_append_of_getLast hstart hrest rfl (by decide)]
  simp [callTokens, Script.null, tokens]

/-- Iterations are read back as over the last operand. -/
theorem read_map (hsource : e.Writes source) {params : List Text}
    (hparams : ∀ n ∈ params, Directive.IsName n) :
    Script.read (Expr.map source params .null).print = some (e.mapLast params .null) := by
  have hshape : (Expr.map source params .null).print =
      source ++ ("?.map((".toList ++ (joinWith ", ".toList params ++ ") => (null))".toList)) := by
    show source ++ "?.map((".toList ++ joinWith ", ".toList params ++ ") => (".toList ++
      "null".toList ++ "))".toList = _
    simp only [List.append_assoc]
    rfl
  have hlex := lex_append_of_head hsource (lex_mapCall hparams) rfl (by decide)
  have hend : Stops allMarks [] := nofun
  have htakes := takes_mapLast e params .null hend
  rw [List.append_nil] at htakes
  rw [hshape]
  exact read_of_takes hlex htakes

/-- Conditions are read back as testing the last alternative. -/
theorem read_choice (hsource : e.Writes source) :
    Script.read (Expr.choice source .null .null).print = some (e.chooseLast .null .null) := by
  have hshape : (Expr.choice source .null .null).print = source ++ " ? null : null".toList := by
    show source ++ " ? ".toList ++ "null".toList ++ " : ".toList ++ "null".toList = _
    simp only [List.append_assoc]
    rfl
  have hlex := lex_append_of_head hsource lex_literals.2.2.2 rfl (by decide)
  have hend : Stops allMarks [] := nofun
  rw [hshape]
  exact read_of_takes hlex (takes_chooseLast e .null .null hend)

/-! ## Writing it -/

theorem branchOf_eq_null {nodes : List Node} (h : Node.meaningful nodes = [])
    (content : Rendering (List Child)) : branchOf nodes content = pure .null := by
  rw [branchOf, h]
  rfl

theorem elseBranch_eq_null {alternate : Option (List Node)}
    (h : ∀ ns ∈ alternate, Node.meaningful ns = []) :
    elseBranch config room alternate = pure .null := by
  cases alternate with
  | none => rfl
  | some ns => rw [elseBranch, branchOf_eq_null (h ns rfl)]

theorem child_iterator {content : List Node} (h : Node.meaningful content = []) (binder : Binder) :
    child config (room + 1) (.iterator source binder content) =
      pure (.expression (.map source (params binder) .null)) := by
  rw [child, branchOf_eq_null h]
  rfl

theorem child_conditional {content : List Node} {alternate : Option (List Node)}
    (h : Node.meaningful content = []) (halternate : ∀ ns ∈ alternate, Node.meaningful ns = []) :
    child config (room + 1) (.conditional source content alternate) =
      pure (.expression (.choice source .null .null)) := by
  rw [child, branchOf_eq_null h, elseBranch_eq_null halternate]
  rfl

/-- A node that becomes an expression is written with braces around it inside markup only. -/
theorem outcome_renderNode {n : Node} {x : Expr} (hn : n.isComment = false)
    (hchild : child config room n = pure (.expression x)) :
    (renderNode config room true n).outcome = .ok x.print ∧
      (renderNode config room false n).outcome = .ok (inBraces x.print) := by
  have hbare : renderNode config room true n = Child.printAs true <$> child config room n :=
    renderNode_eq n fun _ => hn
  have hinside : renderNode config room false n = Child.printAs false <$> child config room n :=
    renderNode_eq n nofun
  rw [hbare, hinside, hchild]
  exact ⟨rfl, rfl⟩

/-! ## The operand -/

/-- A directive without content, for an expression of names, member accesses, `||`, choices and
calls of `map`. Its code, which is the same by itself and between braces, is read back with the call
of the iteration on the last operand and the question mark after the last alternative: so the
iteration takes the whole expression if and only if that is a chain, and the condition if and only
if it is no choice. -/
theorem directive_operand_iff (config : Config) (room : Nat) {e : Script} {source : Text}
    (hsource : e.Writes source) {content : List Node} (hcontent : Node.meaningful content = []) :
    (∀ binder, (∀ n ∈ params binder, Directive.IsName n) → ∃ code,
      (renderNode config (room + 1) true (.iterator source binder content)).outcome = .ok code ∧
      (renderNode config (room + 1) false (.iterator source binder content)).outcome =
        .ok (inBraces code) ∧
      Script.read code = some (e.mapLast (params binder) .null) ∧
      (Script.read code = some (.map e (params binder) .null) ↔ e.isChain = true)) ∧
    ∀ alternate, (∀ ns ∈ alternate, Node.meaningful ns = []) → ∃ code,
      (renderNode config (room + 1) true (.conditional source content alternate)).outcome =
        .ok code ∧
      (renderNode config (room + 1) false (.conditional source content alternate)).outcome =
        .ok (inBraces code) ∧
      Script.read code = some (e.chooseLast .null .null) ∧
      (Script.read code = some (.choice e .null .null) ↔ e.isChoice = false) := by
  refine ⟨fun binder hbinder => ?_, fun alternate halternate => ?_⟩
  · have hread := read_map hsource hbinder
    obtain ⟨hbare, hbraces⟩ := outcome_renderNode rfl (child_iterator hcontent binder)
    refine ⟨_, hbare, hbraces, hread, ?_⟩
    rw [hread, Option.some_inj]
    exact mapLast_eq_map_iff e (params binder) .null
  · have hread := read_choice hsource
    obtain ⟨hbare, hbraces⟩ := outcome_renderNode rfl (child_conditional hcontent halternate)
    refine ⟨_, hbare, hbraces, hread, ?_⟩
    rw [hread, Option.some_inj]
    exact chooseLast_eq_choice_iff e .null .null

theorem directive_operand_last :
    (∃ code, (renderNode {} 1 false (.iterator "a || b".toList ⟨"x".toList, none⟩ [])).outcome =
        .ok (inBraces code) ∧
      Script.read code ≠
        some (.map (.either (.name ['a']) (.name ['b'])) ["x".toList] .null)) ∧
    ∃ code, (renderNode {} 1 false (.conditional "a ? b : c".toList [] none)).outcome =
        .ok (inBraces code) ∧
      Script.read code ≠
        some (.choice (.choice (.name ['a']) (.name ['b']) (.name ['c'])) .null .null) := by
  have heither : Writes (.either (.name ['a']) (.name ['b'])) "a || b".toList := by
    unfold Writes
    decide
  have hchoice : Writes (.choice (.name ['a']) (.name ['b']) (.name ['c'])) "a ? b : c".toList := by
    unfold Writes
    decide
  have hname : ∀ n ∈ params ⟨"x".toList, none⟩, Directive.IsName n := by
    intro n hn
    obtain rfl : n = ['x'] := List.mem_singleton.mp hn
    exact ⟨List.cons_ne_nil _ _, List.all_eq_true.mp (by decide)⟩
  have hcontent : Node.meaningful [] = [] := rfl
  obtain ⟨code, -, hcode, -, hiff⟩ :=
    (directive_operand_iff {} 0 heither hcontent).1 ⟨"x".toList, none⟩ hname
  obtain ⟨test, -, htest, -, htestIff⟩ :=
    (directive_operand_iff {} 0 hchoice hcontent).2 none nofun
  exact ⟨⟨code, hcode, fun h => Bool.false_ne_true (hiff.mp h)⟩,
    test, htest, fun h => Bool.false_ne_true (htestIff.mp h).symm⟩

end Stencil.Lower
