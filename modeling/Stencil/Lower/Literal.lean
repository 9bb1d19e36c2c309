import Stencil.Jsx.Literal
import Stencil.Lower.Fault

/-!
# Template literals from attribute values

The parts of an attribute value as segments of a template literal. Comments have no segment.
-/

namespace Stencil.Lower

open Jsx (Segment)

/-- The parameters of a function that is called for each item. -/
def params (binder : Binder) : List Text := binder.item :: binder.namedIndex?.toList

mutual

def segmentsOf (room : Nat) : Node → Except Fault (List Segment)
  | .text value => .ok [.text value]
  | .encoded source | .interpolated source => .ok [.hole source]
  | .comment _ => .ok []
  | .conditional test children alternate =>
    match room with
    | 0 => .error .tooDeep
    | room + 1 => do
      -- Of two faults the one in the else branch counts.
      let no ← branchSegments room alternate
      let yes ← segments room children
      .ok [.choice test yes no]
  | .iterator iterable binder children =>
    match room with
    | 0 => .error .tooDeep
    | room + 1 => do
      let body ← segments room children
      .ok [.each iterable (params binder) body]
  | .evaluated code => refuse room (.inValue (Node.evaluated code).kindName) (.evaluated code)
  | .attribute name parts =>
    refuse room (.inValue (Node.attribute name parts).kindName) (.attribute name parts)
  | .element tag attributes children =>
    refuse room (.inValue (Node.element tag attributes children).kindName)
      (.element tag attributes children)
  | .document children =>
    refuse room (.inValue (Node.document children).kindName) (.document children)
  | .foreign => refuse room (.inValue Node.foreign.kindName) .foreign

def segments (room : Nat) : List Node → Except Fault (List Segment)
  | [] => .ok []
  | n :: ns => do
    let first ← segmentsOf room n
    let rest ← segments room ns
    .ok (first ++ rest)

/-- The segments of an else branch, none if there is no such branch. -/
def branchSegments (room : Nat) : Option (List Node) → Except Fault (List Segment)
  | none => .ok []
  | some ns => segments room ns

end

end Stencil.Lower
