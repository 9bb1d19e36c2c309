import Stencil.Text.Blank
import Stencil.Text.LetterCase
import Stencil.Text.Quoted

/-!
# Style declarations

The text of a `style` attribute is a list of declarations, `name: value`, separated by semicolons.
In a style object the name of a property is its key: `background-color` becomes `backgroundColor`.
-/

namespace Stencil.Style

open Text

inductive Fault where
  | malformed (declaration : Text)
  | noDeclarations
  | namelessDeclaration
  | severalDeclarations
  | dynamicName
deriving DecidableEq

def Fault.message : Fault → Text
  | .malformed declaration => "Malformed style declaration ".toList ++ quoted declaration
  | .noDeclarations => "Style attribute has no declarations".toList
  | .namelessDeclaration => "Style declaration without a property name".toList
  | .severalDeclarations => "Conditional style value cannot span several declarations".toList
  | .dynamicName => "Dynamic style property names are not supported".toList

/-- Drops every hyphen before a character of the same line and puts that character in upper
case. -/
def camelCase : Text → Text
  | [] => []
  | '-' :: c :: cs => if c = '\n' then '-' :: c :: camelCase cs else upperForm c ++ camelCase cs
  | c :: cs => c :: camelCase cs

/-- The key of a property. Custom properties, which begin with two hyphens, keep their name, and the
vendor `-ms-` is written in lower case. -/
def key (name : Text) : Text :=
  if ['-', '-'].isPrefixOf name then name
  else if "-ms-".toList.isPrefixOf name then camelCase (name.drop 1)
  else camelCase name

/-- Sets a key: a key that is there keeps its place and takes the new value. -/
def put (key value : Text) : List (Text × Text) → List (Text × Text)
  | [] => [(key, value)]
  | (k, v) :: rest => if k = key then (k, value) :: rest else (k, v) :: put key value rest

/-- Adds the declarations to those before them. One without a value is left out. -/
def addDeclarations (before : List (Text × Text)) :
    List Text → Except Fault (List (Text × Text))
  | [] => .ok before
  | d :: ds =>
    if allBlank d then addDeclarations before ds
    else
      match cut? [':'] d with
      | none => .error (.malformed (trim d))
      | some (name, value) =>
        if allBlank name then .error (.malformed (trim d))
        else if allBlank value then addDeclarations before ds
        else addDeclarations (put (key (trim name)) (trim value) before) ds

/-- The keys and values that a literal text declares. -/
def declarations (t : Text) : Except Fault (List (Text × Text)) :=
  addDeclarations [] (splitOn ';' t)

end Stencil.Style
