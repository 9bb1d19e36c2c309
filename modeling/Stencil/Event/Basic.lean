import Stencil.Node.Basic
import Stencil.Text.Quoted

/-!
# Lexical events

Scanning a template yields events: a token and the position at which it begins. What can be wrong
with a template at this level is a `LexFault`.
-/

namespace Stencil

open Text

inductive Token where
  | openTag (name : Text)
  /-- The end of a tag's attribute area. -/
  | stopAttributes
  | closeTag (name : Text)
  | openAttribute (name : Text)
  | closeAttribute
  | text (value : Text)
  | comment (value : Text)
  | encode (source : Text)
  | interpolate (source : Text)
  | evaluate (code : Text)
  | openConditional (test : Text)
  | elseIf (test : Text)
  | otherwise
  | closeConditional
  | openIterator (iterable : Text) (binder : Binder)
  | closeIterator
deriving DecidableEq

structure Event where
  position : Nat
  token : Token
deriving DecidableEq

inductive LexFault where
  | unterminatedDirective
  | emptyExpression
  | emptyDirective
  | malformedIteration
  | unterminatedComment
  | unterminatedClosingTag
  | namelessClosingTag
  | dynamicTagName
  | missingTagName
  | unexpectedCharacter (c : Char) (tag : Text)
  | unquotedValue (name : Text)
  | unterminatedValue
  | unterminatedTag (tag : Text)
deriving DecidableEq

def LexFault.message : LexFault → Text
  | .unterminatedDirective => "Unterminated directive, missing '\x7d\x7d'".toList
  | .emptyExpression => "Empty expression directive".toList
  | .emptyDirective => "Empty directive".toList
  | .malformedIteration =>
    "Malformed iteration, expected \x7b\x7b~ expression :item[:index] \x7d\x7d".toList
  | .unterminatedComment => "Unterminated comment".toList
  | .unterminatedClosingTag => "Unterminated closing tag".toList
  | .namelessClosingTag => "Closing tag without a name".toList
  | .dynamicTagName => "Dynamic tag names are not supported".toList
  | .missingTagName => "Expected a tag name after '<'".toList
  | .unexpectedCharacter c tag =>
    "Unexpected character ".toList ++ quoted [c] ++ " in tag <".toList ++ tag ++ ['>']
  | .unquotedValue name =>
    "Attribute ".toList ++ quoted name ++ " value must be double-quoted".toList
  | .unterminatedValue => "Unterminated attribute value".toList
  | .unterminatedTag tag => "Unterminated tag <".toList ++ tag ++ ['>']

/-- A fault and the position it is reported at. -/
structure LexError where
  fault : LexFault
  position : Nat
deriving DecidableEq

end Stencil
