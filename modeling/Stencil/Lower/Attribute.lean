import Stencil.Jsx.Attribute
import Stencil.Lower.Style

/-!
# Attributes

The attribute area of an element. An attribute is looked up without regard to letter case: some
have another name in the generated source, and `style` takes an object. Attributes under a
condition become a spread. Literal text and comments between attributes are dropped.
-/

namespace Stencil.Lower

open Jsx (Value Property)
open Text

/-- Attributes that are named differently in the generated source. -/
def renamedAttributes : List (Text × Text) :=
  [("class", "className"), ("for", "htmlFor"), ("accept-charset", "acceptCharset"),
   ("accesskey", "accessKey"), ("allowfullscreen", "allowFullScreen"),
   ("autocomplete", "autoComplete"), ("autofocus", "autoFocus"), ("autoplay", "autoPlay"),
   ("charset", "charSet"), ("colspan", "colSpan"), ("contenteditable", "contentEditable"),
   ("crossorigin", "crossOrigin"), ("datetime", "dateTime"), ("enctype", "encType"),
   ("formaction", "formAction"), ("frameborder", "frameBorder"), ("http-equiv", "httpEquiv"),
   ("inputmode", "inputMode"), ("maxlength", "maxLength"), ("minlength", "minLength"),
   ("novalidate", "noValidate"), ("playsinline", "playsInline"), ("readonly", "readOnly"),
   ("referrerpolicy", "referrerPolicy"), ("rowspan", "rowSpan"), ("spellcheck", "spellCheck"),
   ("srcdoc", "srcDoc"), ("srclang", "srcLang"), ("srcset", "srcSet"), ("tabindex", "tabIndex"),
   ("usemap", "useMap")].map fun (name, renamed) => (name.toList, renamed.toList)

/-- The name of an attribute in the generated source. -/
def attributeName (name : Text) : Text := (renamedAttributes.lookup (lower name)).getD name

def isStyle (name : Text) : Bool := lower name = "style".toList

/-- Refuses a node that is no attribute. -/
def refuseAttribute {α : Type} (room : Nat) : Node → Except Fault α
  | .iterator iterable binder children =>
    refuse room .iterationOfAttributes (.iterator iterable binder children)
  | n => refuse room .expressionAsAttribute n

/-! ## Values in spread objects -/

/-- The value of parts that are literal text, or else are put together in a template literal. -/
def composedValue (room : Nat) (parts : List Node) : Except Fault Value :=
  if parts.all Node.isText then .ok (.text (Node.literalText parts))
  else do
    let literal ← segments room parts
    .ok (.literal literal)

mutual

/-- The value of an attribute with a single part. -/
def partValue (room : Nat) : Node → Except Fault Value
  | .encoded source | .interpolated source => .ok (.source source)
  | .conditional test children alternate =>
    match room with
    | 0 => .error .tooDeep
    | room + 1 => do
      let yes ← if children.isEmpty then .ok .null else value room children
      let no ← branchValue room alternate
      .ok (.choice test yes no)
  | n => composedValue room [n]

/-- The value of an attribute with the given parts. -/
def value (room : Nat) : List Node → Except Fault Value
  | [] => composedValue room []
  | [n] => partValue room n
  | n :: ns => composedValue room (n :: ns)

/-- The value of an else branch. An empty one has no value. -/
def branchValue (room : Nat) : Option (List Node) → Except Fault Value
  | none => .ok .null
  | some ns => if ns.isEmpty then .ok .null else value room ns

end

/-- A property of a spread object. -/
def property (room : Nat) (name : Text) (parts : List Node) : Except Fault Property :=
  if isStyle name then do
    let object ← style room parts
    .ok (.style (attributeName name) object)
  else if parts.isEmpty then .ok (.flag (attributeName name))
  else do
    let v ← value room parts
    .ok (.value (attributeName name) v)

mutual

/-- The properties that a node of an attribute area becomes in a spread object, at most one. -/
def propertiesOf (room : Nat) : Node → Except Fault (List Property)
  | .attribute name parts => do
    let p ← property room name parts
    .ok [p]
  | .conditional test children alternate =>
    match room with
    | 0 => .error .tooDeep
    | room + 1 => do
      let yes ← properties room children
      let no ← branchProperties room alternate
      .ok [.spread test yes no]
  | .text _ | .comment _ => .ok []
  | n => refuseAttribute room n

def properties (room : Nat) : List Node → Except Fault (List Property)
  | [] => .ok []
  | n :: ns => do
    let first ← propertiesOf room n
    let rest ← properties room ns
    .ok (first ++ rest)

/-- The properties of an else branch, none if there is no such branch. -/
def branchProperties (room : Nat) : Option (List Node) → Except Fault (List Property)
  | none => .ok []
  | some ns => properties room ns

end

/-! ## Attributes of an element -/

/-- An attribute with the given parts. -/
def attributeOf (room : Nat) (name : Text) (parts : List Node) : Except Fault Jsx.Attribute :=
  if isStyle name then do
    let object ← style room parts
    .ok (.style object)
  else
    match parts with
    | [] => .ok (.flag (attributeName name))
    | [.encoded source] | [.interpolated source] => .ok (.source (attributeName name) source)
    | parts =>
      if parts.all Node.isText then .ok (.quoted (attributeName name) (Node.literalText parts))
      else do
        let literal ← segments room parts
        .ok (.literal (attributeName name) literal)

/-- The spread of a conditional around attributes. -/
def spread (room : Nat) (test : Text) (children : List Node) (alternate : Option (List Node)) :
    Except Fault Jsx.Attribute :=
  match room with
  | 0 => .error .tooDeep
  | room + 1 => do
    let yes ← properties room children
    let no ← branchProperties room alternate
    .ok (.spread test yes no)

/-- The attributes of an element with the given attribute area. -/
def attributes (room : Nat) : List Node → Except Fault (List Jsx.Attribute)
  | [] => .ok []
  | .attribute name parts :: ns => do
    let first ← attributeOf room name parts
    let rest ← attributes room ns
    .ok (first :: rest)
  | .conditional test children alternate :: ns => do
    let first ← spread room test children alternate
    let rest ← attributes room ns
    .ok (first :: rest)
  | .text _ :: ns | .comment _ :: ns => attributes room ns
  | n :: _ => refuseAttribute room n

end Stencil.Lower
