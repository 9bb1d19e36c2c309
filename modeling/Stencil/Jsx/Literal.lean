import Stencil.Text.Basic

/-!
# Template literals

A template literal of the generated source is a list of segments: text, expressions whose value is
inserted, a choice between two literals, and a literal repeated over a list and joined.
-/

namespace Stencil.Jsx

/-- The text inside a template literal: the backslash, the back quote and the dollar sign before a
brace are escaped, one after another. -/
def escapeLiteral (t : Text) : Text :=
  Text.replaceAll ['$', '{'] ['\\', '$', '{']
    (Text.replaceAll ['\x60'] ['\\', '\x60'] (Text.replaceAll ['\\'] ['\\', '\\'] t))

/-- An expression inserted into a template literal. -/
def inserted (source : Text) : Text := '$' :: '{' :: source ++ ['}']

/-- A template literal with the given inside. -/
def backquoted (inside : Text) : Text := '\x60' :: inside ++ ['\x60']

inductive Segment where
  | text (value : Text)
  | hole (source : Text)
  | choice (test : Text) (yes no : List Segment)
  | each (iterable : Text) (params : List Text) (body : List Segment)

namespace Segment

def isText : Segment → Bool
  | .text _ => true
  | _ => false

mutual

def print : Segment → Text
  | .text value => escapeLiteral value
  | .hole source => inserted source
  | .choice test yes no =>
    inserted (test ++ " ? ".toList ++ backquoted (printAll yes) ++ " : ".toList ++
      backquoted (printAll no))
  | .each iterable params body =>
    inserted (iterable ++ "?.map((".toList ++ Text.joinWith ", ".toList params ++ ") => ".toList ++
      backquoted (printAll body) ++ ").join(\"\")".toList)

def printAll : List Segment → Text
  | [] => []
  | s :: ss => print s ++ printAll ss

end

end Segment

/-- The template literal of the segments. -/
def literal (segments : List Segment) : Text := backquoted (Segment.printAll segments)

end Stencil.Jsx
