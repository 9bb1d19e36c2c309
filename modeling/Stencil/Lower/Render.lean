import Stencil.Lower.Content

/-!
# Rendering text

The content of a template as the text of its markup, written in one go. A node is rendered `bare`,
as an expression of its own, where it is the only content of the document, of a branch or of an
iteration, and inside markup elsewhere: there an expression stands between braces and text is text.
-/

namespace Stencil.Lower

open Text
open Jsx (markupText tagText)

/-- An expression by itself, or between braces inside markup. -/
def wrap (bare : Bool) (expression : Text) : Text :=
  if bare then expression else Jsx.inBraces expression

def fragmentText (content : Text) : Text := "<>".toList ++ content ++ "</>".toList

/-- Nodes as the text of one expression, given the text of those of them that count. -/
def branchText (nodes : List Node) (content : Bool → Rendering Text) : Rendering Text :=
  let siblings := Node.meaningful nodes
  if siblings.isEmpty then pure "null".toList
  else if siblings.all Node.isText then pure (stringLiteral (Node.literalText nodes))
  else if siblings.length = 1 then content true
  else do
    let content ← content false
    pure (fragmentText content)

mutual

def renderNode (config : Config) (room : Nat) (bare : Bool) : Node → Rendering Text
  | .text value => pure (if bare then stringLiteral value else markupText value)
  | .comment _ => pure []
  | .encoded source => pure (wrap bare source)
  | .interpolated source => ⟨true, .ok (wrap bare (config.parserName ++ '(' :: source ++ [')']))⟩
  | .evaluated code => .ofOutcome (refuse room .lateEvaluation (.evaluated code))
  | .attribute name parts => .ofOutcome (refuse room .strayAttribute (.attribute name parts))
  | .element tag area content =>
    match room with
    | 0 => .ofOutcome (.error .tooDeep)
    | room + 1 => do
      let attributes ← Rendering.ofOutcome (attributes room area)
      let opening := tagText tag attributes
      if isVoid tag && content.isEmpty then
        pure ('<' :: opening ++ " />".toList)
      else
        let content ← renderNodes config room false Node.isComment content
        pure ('<' :: opening ++ '>' :: content ++ "</".toList ++ tag ++ ['>'])
  | .conditional test primary alternate =>
    match room with
    | 0 => .ofOutcome (.error .tooDeep)
    | room + 1 => do
      let yes ← branchText primary fun bare => renderNodes config room bare Node.isBlank primary
      let no ← renderElse config room alternate
      pure (wrap bare (test ++ " ? ".toList ++ yes ++ " : ".toList ++ no))
  | .iterator iterable binder content =>
    match room with
    | 0 => .ofOutcome (.error .tooDeep)
    | room + 1 => do
      let body ← branchText content fun bare => renderNodes config room bare Node.isBlank content
      pure (wrap bare (iterable ++ "?.map((".toList ++ joinWith ", ".toList (params binder) ++
        ") => (".toList ++ body ++ "))".toList))
  | .document content =>
    .ofOutcome (.error (.unrecognized (Node.document content).kindName))
  | .foreign => .ofOutcome (.error (.unrecognized Node.foreign.kindName))

/-- The nodes one after another, without those to `skip`. -/
def renderNodes (config : Config) (room : Nat) (bare : Bool) (skip : Node → Bool) :
    List Node → Rendering Text
  | [] => pure []
  | n :: ns =>
    if skip n then renderNodes config room bare skip ns
    else do
      let first ← renderNode config room bare n
      let rest ← renderNodes config room bare skip ns
      pure (first ++ rest)

/-- An else branch. A conditional without one has nothing there. -/
def renderElse (config : Config) (room : Nat) : Option (List Node) → Rendering Text
  | none => pure "null".toList
  | some ns => branchText ns fun bare => renderNodes config room bare Node.isBlank ns

end

/-- The nodes of a branch, of an iteration's body or of the document. -/
def renderBranch (config : Config) (room : Nat) (nodes : List Node) : Rendering Text :=
  branchText nodes fun bare => renderNodes config room bare Node.isBlank nodes

/-- The text of a single node. -/
def nodeText (config : Config) (bare : Bool) (n : Node) (limit : Nat := Node.nestingLimit) :
    Rendering Text := renderNode config limit bare n

end Stencil.Lower
