import Stencil.Config
import Stencil.Jsx.Markup
import Stencil.Lower.Attribute

/-!
# Content

The content of a template as markup. Blank text and comments do not count as siblings: they are
dropped from a branch, from the body of an iteration and from the document, but blank text inside an
element is kept.

A `Rendering` keeps account of the markup parser. The generated module imports it once an expression
has been handed to it, and the account of a failed rendering is the one at the failure.
-/

namespace Stencil

open Text

/-- An outcome, and whether the markup parser was called on the way to it. -/
structure Rendering (α : Type) where
  callsParser : Bool
  outcome : Except Lower.Fault α

namespace Rendering

/-- A rendering that does not call the parser. -/
def ofOutcome {α : Type} (outcome : Except Lower.Fault α) : Rendering α := ⟨false, outcome⟩

def bind {α β : Type} (r : Rendering α) (f : α → Rendering β) : Rendering β :=
  match r.outcome with
  | .ok a =>
    let s := f a
    ⟨r.callsParser || s.callsParser, s.outcome⟩
  | .error fault => ⟨r.callsParser, .error fault⟩

instance : Monad Rendering where
  pure a := ofOutcome (.ok a)
  bind := bind

end Rendering

/-- Whether a node does not count as a sibling. -/
def Node.isBlank : Node → Bool
  | .comment _ => true
  | .text value => allBlank value
  | _ => false

/-- The nodes that count as siblings. -/
def Node.meaningful (nodes : List Node) : List Node := nodes.filter (!·.isBlank)

namespace Lower

open Jsx (Child Element Expr)

/-- An expression handed to the markup parser. -/
def parserCall (config : Config) (source : Text) : Rendering Child :=
  ⟨true, .ok (.expression (.call config.parserName source))⟩

/-- Nodes as one expression, given what those of them that count become as children. Text standing
by itself is a string, with the blank text around it. -/
def branchOf (nodes : List Node) (content : Rendering (List Child)) : Rendering Expr :=
  let siblings := Node.meaningful nodes
  if siblings.isEmpty then pure .null
  else if siblings.all Node.isText then pure (.string (Node.literalText nodes))
  else do
    let content ← content
    pure (.ofChildren content)

mutual

/-- A node as a child of an element or a fragment. -/
def child (config : Config) (room : Nat) : Node → Rendering Child
  | .text value => pure (.text value)
  | .comment _ => pure (.text [])
  | .encoded source => pure (.expression (.source source))
  | .interpolated source => parserCall config source
  | .evaluated code => .ofOutcome (refuse room .lateEvaluation (.evaluated code))
  | .attribute name parts => .ofOutcome (refuse room .strayAttribute (.attribute name parts))
  | .element tag area content =>
    match room with
    | 0 => .ofOutcome (.error .tooDeep)
    | room + 1 => do
      let attributes ← Rendering.ofOutcome (attributes room area)
      if isVoid tag && content.isEmpty then
        pure (.element (.selfClosed tag attributes))
      else
        let content ← children config room Node.isComment content
        pure (.element (.paired tag attributes content))
  | .conditional test primary alternate =>
    match room with
    | 0 => .ofOutcome (.error .tooDeep)
    | room + 1 => do
      let yes ← branchOf primary (children config room Node.isBlank primary)
      let no ← elseBranch config room alternate
      pure (.expression (.choice test yes no))
  | .iterator iterable binder content =>
    match room with
    | 0 => .ofOutcome (.error .tooDeep)
    | room + 1 => do
      let body ← branchOf content (children config room Node.isBlank content)
      pure (.expression (.map iterable (params binder) body))
  | .document content =>
    .ofOutcome (.error (.unrecognized (Node.document content).kindName))
  | .foreign => .ofOutcome (.error (.unrecognized Node.foreign.kindName))

/-- The nodes as children, without those to `skip`. -/
def children (config : Config) (room : Nat) (skip : Node → Bool) :
    List Node → Rendering (List Child)
  | [] => pure []
  | n :: ns =>
    if skip n then children config room skip ns
    else do
      let first ← child config room n
      let rest ← children config room skip ns
      pure (first :: rest)

/-- An else branch as an expression. -/
def elseBranch (config : Config) (room : Nat) : Option (List Node) → Rendering Expr
  | none => pure .null
  | some ns => branchOf ns (children config room Node.isBlank ns)

end

/-- The nodes of a branch, of an iteration's body or of the document as one expression. -/
def branch (config : Config) (room : Nat) (nodes : List Node) : Rendering Expr :=
  branchOf nodes (children config room Node.isBlank nodes)

end Lower

end Stencil
