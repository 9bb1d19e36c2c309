import Stencil.Event.Basic
import Stencil.Text.Blank
import Stencil.Text.Word

/-!
# Directive bodies

What stands between the braces of a directive. Its first character decides what it is: `=` and `!`
put out a value, `?` belongs to a conditional, `~` to an iteration, and anything else is a
statement.

An iteration is headed by an expression, a colon and the name of the item, and perhaps another
colon and the name of the index. Expressions may hold colons, so the header is split as early as it
can be, once the blanks in front are gone. Only if it cannot be split so may the expression be a
single blank.
-/

namespace Stencil.Directive

open Text

/-- Characters of an item's or an index's name. -/
def isNameChar (c : Char) : Bool := isWord c || c = '$'

/-- The name at the front of a text, after blanks, and what follows it and further blanks. -/
def name? (t : Text) : Option (Text × Text) :=
  let t := trimStart t
  let name := t.takeWhile isNameChar
  if name.isEmpty then none else some (name, trimStart (t.dropWhile isNameChar))

/-- The variables, if the text is `:item` or `:item:index` up to blanks. -/
def binder? (t : Text) : Option Binder :=
  match trimStart t with
  | ':' :: t =>
    match name? t with
    | some (item, []) => some ⟨item, none⟩
    | some (item, ':' :: t) =>
      match name? t with
      | some (index, []) => some ⟨item, some index⟩
      | _ => none
    | _ => none
  | _ => none

/-- The shortest beginning of the text, at least one character, after which the variables stand. -/
def header? : Text → Option (Text × Binder)
  | [] => none
  | c :: cs =>
    match binder? cs with
    | some binder => some ([c], binder)
    | none =>
      match header? cs with
      | some (iterable, binder) => some (c :: iterable, binder)
      | none => none

/-- The token of an iteration directive, given what follows its `~`. -/
def iteration? (t : Text) : Option Token :=
  match trimStart t with
  | [] => some .closeIterator
  | c :: cs =>
    match header? (c :: cs) with
    | some (iterable, binder) => some (.openIterator iterable binder)
    | none =>
      match (t.takeWhile isBlank).getLast?, binder? (c :: cs) with
      | some blank, some binder => some (.openIterator [blank] binder)
      | _, _ => none

/-- The token of a directive with the given body. -/
def token : Text → Except LexFault Token
  | '=' :: source =>
    if allBlank source then .error .emptyExpression else .ok (.interpolate (trim source))
  | '!' :: source =>
    if allBlank source then .error .emptyExpression else .ok (.encode (trim source))
  | '?' :: '?' :: test => .ok (if allBlank test then .otherwise else .elseIf (trim test))
  | '?' :: test => .ok (if allBlank test then .closeConditional else .openConditional (trim test))
  | '~' :: header =>
    match iteration? header with
    | some token => .ok token
    | none => .error .malformedIteration
  | code => if allBlank code then .error .emptyDirective else .ok (.evaluate (trim code))

end Stencil.Directive
