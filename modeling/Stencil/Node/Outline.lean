import Stencil.Node.Basic
import Stencil.Json

/-!
# Outline of a tree

The tree as JSON, with one object for each node. An index or an alternate that is not there has no
member, while an empty one does. A foreign node has no outline.
-/

namespace Stencil.Node

def outlineOf (type : String) (members : List (String × Json)) : Json :=
  .object (("type".toList, .string type.toList) ::
    members.map fun (key, value) => (key.toList, value))

mutual

def outline : Node → Json
  | .text value => outlineOf "text" [("value", .string value)]
  | .comment value => outlineOf "comment" [("value", .string value)]
  | .encoded source => outlineOf "dotEncoded" [("value", .string source)]
  | .interpolated source => outlineOf "dotInterpolated" [("value", .string source)]
  | .evaluated code => outlineOf "dotEvaluated" [("value", .string code)]
  | .attribute name parts =>
    outlineOf "attribute" [("name", .string name), ("value", .array (outlineAll parts))]
  | .element tag attributes children =>
    outlineOf "element" [("name", .string tag), ("attributes", .array (outlineAll attributes)),
      ("children", .array (outlineAll children))]
  | .iterator iterable binder children =>
    outlineOf "dotIterator"
      ([("iterable", .string iterable), ("item", .string binder.item)] ++
        (binder.index.map fun index => ("index", Json.string index)).toList ++
        [("children", .array (outlineAll children))])
  | .conditional test children alternate =>
    outlineOf "dotConditional"
      ([("test", .string test), ("children", .array (outlineAll children))] ++
        outlineBranch alternate)
  | .document children => outlineOf "root" [("children", .array (outlineAll children))]
  | .foreign => .null

def outlineAll : List Node → List Json
  | [] => []
  | n :: ns => outline n :: outlineAll ns

def outlineBranch : Option (List Node) → List (String × Json)
  | none => []
  | some ns => [("alternate", .array (outlineAll ns))]

end

/-- The outline of a tree without foreign nodes. -/
def outline? (n : Node) : Option Json := if n.hasForeign then none else some n.outline

end Stencil.Node
