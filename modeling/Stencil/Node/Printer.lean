import Stencil.Node.Basic
import Stencil.Text.Blank

/-!
# Written form of a tree

`Node.print` writes a tree as template text: one blank inside the braces on either side of a
directive's content, attributes one space apart, attribute values between double quotes. The
branches of a conditional, and the body of an iteration, in an attribute area are written without
the blanks at their ends. An else-if chain has one closing directive.

A foreign node has no written form. `Node.print` leaves it out, and `Node.print?` refuses a tree
that holds one.
-/

namespace Stencil

open Text

/-- Elements that have no content and no closing tag. -/
def voidTags : List Text :=
  ["area".toList, "base".toList, "br".toList, "col".toList, "embed".toList, "hr".toList,
   "img".toList, "input".toList, "link".toList, "meta".toList, "param".toList, "source".toList,
   "track".toList, "wbr".toList]

def isVoid (tag : Text) : Bool := voidTags.contains tag

/-- A directive with the given body. -/
def braced (body : Text) : Text := '{' :: '{' :: body ++ ['}', '}']

/-- The directive that opens an iteration. -/
def iteratorHeader (iterable : Text) (binder : Binder) : Text :=
  let index :=
    match binder.namedIndex? with
    | some index => ':' :: index
    | none => []
  braced ("~ ".toList ++ iterable ++ " :".toList ++ binder.item ++ index ++ [' '])

namespace Node

mutual

def print : Node → Text
  | .text value => value
  | .comment value => "<!--".toList ++ value ++ "-->".toList
  | .encoded source => braced ("! ".toList ++ source ++ [' '])
  | .interpolated source => braced ("= ".toList ++ source ++ [' '])
  | .evaluated code => braced (' ' :: code ++ [' '])
  | .attribute name [] => name
  | .attribute name (part :: parts) =>
    name ++ ['=', '\x22'] ++ (print part ++ printAll parts) ++ ['\x22']
  | .element tag attributes children =>
    let opening := '<' :: tag ++ printArea attributes
    if isVoid tag && children.isEmpty then opening ++ " />".toList
    else opening ++ '>' :: printAll children ++ "</".toList ++ tag ++ ['>']
  | .iterator iterable binder children =>
    iteratorHeader iterable binder ++ printAll children ++ braced ['~']
  | .conditional test children alternate =>
    braced ("? ".toList ++ test ++ [' ']) ++ printAll children ++ printAlternate alternate ++
      braced ['?']
  | .document children => printAll children
  | .foreign => []

def printAll : List Node → Text
  | [] => []
  | n :: ns => print n ++ printAll ns

/-- The rest of a conditional after its first branch, without the closing directive. -/
def printAlternate : Option (List Node) → Text
  | none => []
  | some [.conditional test children alternate] =>
    braced ("?? ".toList ++ test ++ [' ']) ++ printAll children ++ printAlternate alternate
  | some ns => braced ['?', '?'] ++ printAll ns

/-- An attribute area, with a space before each node. -/
def printArea : List Node → Text
  | [] => []
  | .conditional test children alternate :: ns =>
    ' ' :: braced ("? ".toList ++ test ++ [' ']) ++ trim (printArea children) ++
      printAreaAlternate alternate ++ braced ['?'] ++ printArea ns
  | .iterator iterable binder children :: ns =>
    ' ' :: iteratorHeader iterable binder ++ trim (printArea children) ++ braced ['~'] ++
      printArea ns
  | n :: ns => ' ' :: print n ++ printArea ns

def printAreaAlternate : Option (List Node) → Text
  | none => []
  | some [.conditional test children alternate] =>
    braced ("?? ".toList ++ test ++ [' ']) ++ trim (printArea children) ++
      printAreaAlternate alternate
  | some ns => braced ['?', '?'] ++ trim (printArea ns)

end

/-- The written form of a tree without foreign nodes. -/
def print? (n : Node) : Option Text := if n.hasForeign then none else some n.print

end Node

end Stencil
