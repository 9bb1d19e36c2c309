import Stencil.Jsx.Style

/-!
# Attributes

The attributes of an element in the generated source. Attributes under a condition are spread from
an object whose properties are attributes again.
-/

namespace Stencil.Jsx

open Text

/-- A value of a property. -/
inductive Value where
  | null
  | text (value : Text)
  | source (code : Text)
  | choice (test : Text) (yes no : Value)
  | literal (segments : List Segment)

def Value.print : Value → Text
  | .null => "null".toList
  | .text value => stringLiteral value
  | .source code => code
  | .choice test yes no => test ++ " ? ".toList ++ yes.print ++ " : ".toList ++ no.print
  | .literal segments => Jsx.literal segments

/-- A property of a spread object. -/
inductive Property where
  | flag (key : Text)
  | style (key : Text) (s : Style)
  | value (key : Text) (v : Value)
  | spread (test : Text) (yes no : List Property)

namespace Property

mutual

def print : Property → Text
  | .flag key => asciiLiteral key ++ ": true".toList
  | .style key s => asciiLiteral key ++ ": ".toList ++ s.print
  | .value key v => asciiLiteral key ++ ": ".toList ++ v.print
  | .spread test yes no => spreadOf test (object (printAll yes)) (object (printAll no))

def printAll : List Property → List Text
  | [] => []
  | p :: ps => print p :: printAll ps

end

end Property

inductive Attribute where
  | flag (name : Text)
  | quoted (name value : Text)
  | source (name code : Text)
  | literal (name : Text) (segments : List Segment)
  | style (s : Style)
  | spread (test : Text) (yes no : List Property)

/-- An expression between braces. -/
def inBraces (source : Text) : Text := '{' :: source ++ ['}']

/-- The choice between two objects that an attribute under a condition spreads. -/
def spreadChoice (test : Text) (yes no : List Property) : Text :=
  test ++ " ? ".toList ++ object (Property.printAll yes) ++ " : ".toList ++
    object (Property.printAll no)

def Attribute.print : Attribute → Text
  | .flag name => name
  | .quoted name value => name ++ ['=', '\x22'] ++ value ++ ['\x22']
  | .source name code => name ++ '=' :: inBraces code
  | .literal name segments => name ++ '=' :: inBraces (Jsx.literal segments)
  | .style s => "style=".toList ++ inBraces s.print
  | .spread test yes no => inBraces ("...(".toList ++ spreadChoice test yes no ++ [')'])

end Stencil.Jsx
