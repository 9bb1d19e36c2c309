import Stencil.Jsx.Literal
import Stencil.Text.StringLiteral

/-!
# Style objects

The value of a `style` attribute in the generated source. Declarations that are all literal are
written as compact JSON; otherwise the object has one entry for each declaration, whose value is a
string or a template literal, and a spread for declarations under a condition.
-/

namespace Stencil.Jsx

open Text

inductive StyleEntry where
  | plain (key value : Text)
  | composed (key : Text) (value : List Segment)
  | spread (test : Text) (yes no : List StyleEntry)

/-- An object with the given entries. -/
def object (entries : List Text) : Text := '{' :: joinWith ", ".toList entries ++ ['}']

/-- A spread of one of two objects. -/
def spreadOf (test yes no : Text) : Text :=
  "...(".toList ++ test ++ " ? ".toList ++ yes ++ " : ".toList ++ no ++ [')']

namespace StyleEntry

mutual

def print : StyleEntry → Text
  | .plain key value => asciiLiteral key ++ ": ".toList ++ stringLiteral value
  | .composed key value => asciiLiteral key ++ ": ".toList ++ literal value
  | .spread test yes no => spreadOf test (object (printAll yes)) (object (printAll no))

def printAll : List StyleEntry → List Text
  | [] => []
  | e :: es => print e :: printAll es

end

end StyleEntry

inductive Style where
  /-- Keys and values, in order. -/
  | literal (declarations : List (Text × Text))
  | entries (es : List StyleEntry)

def Style.print : Style → Text
  | .literal declarations =>
    let members := declarations.map fun (key, value) =>
      stringLiteral key ++ ':' :: stringLiteral value
    '{' :: joinWith [','] members ++ ['}']
  | .entries es => object (StyleEntry.printAll es)

end Stencil.Jsx
