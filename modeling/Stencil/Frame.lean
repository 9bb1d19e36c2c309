import Stencil.Event.Basic

/-!
# Building the tree

The tree is built from events over a stack of open constructs. A frame is a construct whose content
is still being collected. `Builder.step` handles one event: it opens a frame, closes the innermost
one and places the finished node in the next, or adds a leaf. An event that does not fit is refused,
and the builder is as it was.

A node goes to the else branch of a conditional that has reached its `else`, to the attribute area
of an element whose tag is still open if it is of a kind that can stand there, and to the content
otherwise. An else-if starts a new frame in place of the conditional it continues; the conditionals
before it wait in the frame until the chain is closed.
-/

namespace Stencil

open Text

/-- A construct as messages mention it. -/
inductive Label where
  | document
  | element (tag : Text)
  | attribute (name : Text)
  | iteration (iterable : Text)
  | conditional (test : Text)
deriving DecidableEq

def Label.describe : Label → Text
  | .document => "document".toList
  | .element tag => '<' :: tag ++ ['>']
  | .attribute name => "attribute ".toList ++ quoted name
  | .iteration iterable => "iteration over ".toList ++ quoted iterable
  | .conditional test => "conditional ".toList ++ quoted test

/-- An open construct. -/
inductive Construct where
  /-- `reading` tells whether the tag is still open, so that attributes may follow. -/
  | element (tag : Text) (reading : Bool) (attributes : List Node)
  | attribute (name : Text)
  | iterator (iterable : Text) (binder : Binder)
  /-- `earlier` holds the tests and branches this else-if comes after, the nearest first;
  `alternate` is the else branch, once it has begun. -/
  | conditional (test : Text) (earlier : List (Text × List Node)) (alternate : Option (List Node))
deriving DecidableEq

def Construct.label : Construct → Label
  | .element tag _ _ => .element tag
  | .attribute name => .attribute name
  | .iterator iterable _ => .iteration iterable
  | .conditional test _ _ => .conditional test

structure Frame where
  construct : Construct
  /-- Where the construct begins. -/
  position : Nat
  children : List Node
deriving DecidableEq

/-- Whether a node can stand in an attribute area. -/
def Node.isAttributeLike : Node → Bool
  | .attribute .. | .encoded _ | .interpolated _ | .evaluated _ | .iterator .. | .conditional .. =>
    true
  | .text _ | .comment _ | .element .. | .document _ | .foreign => false

namespace Frame

def label (f : Frame) : Label := f.construct.label

/-- Adds a node where the frame collects nodes of its kind. -/
def add (f : Frame) (n : Node) : Frame :=
  match f.construct with
  | .element tag true attributes =>
    if n.isAttributeLike then { f with construct := .element tag true (attributes ++ [n]) }
    else { f with children := f.children ++ [n] }
  | .conditional test earlier (some alternate) =>
    { f with construct := .conditional test earlier (some (alternate ++ [n])) }
  | _ => { f with children := f.children ++ [n] }

/-- A conditional with the conditionals it continues around it. -/
def chain (n : Node) (earlier : List (Text × List Node)) : Node :=
  earlier.foldl (fun n (test, children) => .conditional test children (some [n])) n

/-- The node of a finished frame. -/
def node (f : Frame) : Node :=
  match f.construct with
  | .element tag _ attributes => .element tag attributes f.children
  | .attribute name => .attribute name f.children
  | .iterator iterable binder => .iterator iterable binder f.children
  | .conditional test earlier alternate => chain (.conditional test f.children alternate) earlier

/-- Whether attributes may follow. -/
def readsAttributes (f : Frame) : Bool :=
  match f.construct with
  | .element _ reading _ => reading
  | _ => false

/-- The nodes of the attribute area. -/
def attributes (f : Frame) : List Node :=
  match f.construct with
  | .element _ _ attributes => attributes
  | _ => []

/-- The else branch, if it has begun. -/
def alternate? (f : Frame) : Option (List Node) :=
  match f.construct with
  | .conditional _ _ alternate => alternate
  | _ => none

end Frame

/-! ## Faults -/

/-- What an event wants to close. -/
inductive Closing where
  | tag (name : Text)
  | attributeValue
  | conditional
  | iteration
deriving DecidableEq

def Closing.describe : Closing → Text
  | .tag name => "closing tag </".toList ++ name ++ ['>']
  | .attributeValue => "end of attribute value".toList
  | .conditional => "end of conditional".toList
  | .iteration => "end of iteration".toList

inductive StructureFault where
  /-- The end of a tag where no tag is open. -/
  | tagEndInside (label : Label)
  | mismatchedTag (found expected : Text)
  | nothingOpen (closing : Closing)
  | stillOpen (closing : Closing) (label : Label)
  | elseIfOutside
  | elseOutside
  | elseIfAfterElse
  | secondElse
  | unclosed (label : Label)
deriving DecidableEq

def StructureFault.message : StructureFault → Text
  | .tagEndInside label =>
    "Tag closed while ".toList ++ label.describe ++ " is still open".toList
  | .mismatchedTag found expected =>
    "Unexpected closing tag </".toList ++ found ++ ">, expected </".toList ++ expected ++ ['>']
  | .nothingOpen closing =>
    "Unexpected ".toList ++ closing.describe ++ ", nothing is open".toList
  | .stillOpen closing label =>
    "Unexpected ".toList ++ closing.describe ++ " while ".toList ++ label.describe ++
      " is still open".toList
  | .elseIfOutside => "Unexpected else-if outside of a conditional".toList
  | .elseOutside => "Unexpected else outside of a conditional".toList
  | .elseIfAfterElse => "Else-if cannot follow an else branch".toList
  | .secondElse => "Conditional already has an else branch".toList
  | .unclosed label => "Unclosed ".toList ++ label.describe ++ " at end of template".toList

/-- A fault and the position it is reported at. -/
structure StructureError where
  fault : StructureFault
  position : Nat
deriving DecidableEq

/-! ## Steps -/

/-- The nodes placed in the document so far, and the open frames, the innermost first. -/
structure Builder where
  root : List Node
  frames : List Frame
deriving DecidableEq

namespace Builder

def empty : Builder := ⟨[], []⟩

/-- Adds a node to the innermost frame, or to the document. -/
def add (b : Builder) (n : Node) : Builder :=
  match b.frames with
  | [] => { b with root := b.root ++ [n] }
  | f :: fs => { b with frames := f.add n :: fs }

/-- Opens a frame at `position`. -/
def enter (b : Builder) (construct : Construct) (position : Nat) : Builder :=
  { b with frames := ⟨construct, position, []⟩ :: b.frames }

/-- Why the innermost construct cannot be closed. -/
def refusal (b : Builder) (closing : Closing) : StructureFault :=
  match b.frames with
  | [] => .nothingOpen closing
  | f :: _ => .stillOpen closing f.label

/-- The label of the innermost construct. -/
def innermost (b : Builder) : Label :=
  match b.frames with
  | [] => .document
  | f :: _ => f.label

/-- The builder with `f` closed and its node placed in what is around it. -/
def leave (b : Builder) (f : Frame) (around : List Frame) : Builder :=
  { b with frames := around }.add f.node

/-- The builder after one token at `position`. -/
def handle (b : Builder) (position : Nat) (token : Token) : Except StructureFault Builder :=
  match token with
  | .text value => .ok (b.add (.text value))
  | .comment value => .ok (b.add (.comment value))
  | .encode source => .ok (b.add (.encoded source))
  | .interpolate source => .ok (b.add (.interpolated source))
  | .evaluate code => .ok (b.add (.evaluated code))
  | .openTag name => .ok (b.enter (.element name true []) position)
  | .openAttribute name => .ok (b.enter (.attribute name) position)
  | .openIterator iterable binder => .ok (b.enter (.iterator iterable binder) position)
  | .openConditional test => .ok (b.enter (.conditional test [] none) position)
  | .stopAttributes =>
    match b.frames with
    | ⟨.element tag true attributes, start, children⟩ :: fs =>
      .ok { b with frames := ⟨.element tag false attributes, start, children⟩ :: fs }
    | _ => .error (.tagEndInside b.innermost)
  | .closeTag name =>
    match b.frames with
    | ⟨.element tag reading attributes, start, children⟩ :: fs =>
      if tag = name then .ok (b.leave ⟨.element tag reading attributes, start, children⟩ fs)
      else .error (.mismatchedTag name tag)
    | _ => .error (b.refusal (.tag name))
  | .closeAttribute =>
    match b.frames with
    | ⟨.attribute name, start, children⟩ :: fs =>
      .ok (b.leave ⟨.attribute name, start, children⟩ fs)
    | _ => .error (b.refusal .attributeValue)
  | .closeIterator =>
    match b.frames with
    | ⟨.iterator iterable binder, start, children⟩ :: fs =>
      .ok (b.leave ⟨.iterator iterable binder, start, children⟩ fs)
    | _ => .error (b.refusal .iteration)
  | .closeConditional =>
    match b.frames with
    | ⟨.conditional test earlier alternate, start, children⟩ :: fs =>
      .ok (b.leave ⟨.conditional test earlier alternate, start, children⟩ fs)
    | _ => .error (b.refusal .conditional)
  | .elseIf test =>
    match b.frames with
    | ⟨.conditional _ _ (some _), _, _⟩ :: _ => .error .elseIfAfterElse
    | ⟨.conditional first earlier none, _, children⟩ :: fs =>
      let chained := .conditional test ((first, children) :: earlier) none
      .ok { b with frames := ⟨chained, position, []⟩ :: fs }
    | _ => .error .elseIfOutside
  | .otherwise =>
    match b.frames with
    | ⟨.conditional _ _ (some _), _, _⟩ :: _ => .error .secondElse
    | ⟨.conditional test earlier none, start, children⟩ :: fs =>
      .ok { b with frames := ⟨.conditional test earlier (some []), start, children⟩ :: fs }
    | _ => .error .elseOutside

/-- The builder after one event. -/
def step (b : Builder) (e : Event) : Except StructureError Builder :=
  match b.handle e.position e.token with
  | .ok b => .ok b
  | .error fault => .error ⟨fault, e.position⟩

/-- The builder after all events, or the first refusal. -/
def run (b : Builder) : List Event → Except StructureError Builder
  | [] => .ok b
  | e :: es =>
    match b.step e with
    | .ok b => b.run es
    | .error error => .error error

/-- The builder after each of the events, up to the first refusal. -/
def trace (b : Builder) : List Event → List Builder × Option StructureError
  | [] => ([], none)
  | e :: es =>
    match b.step e with
    | .ok b =>
      let (later, error) := b.trace es
      (b :: later, error)
    | .error error => ([], some error)

/-- The document, if nothing is left open. -/
def finish (b : Builder) : Except StructureError Document :=
  match b.frames with
  | [] => .ok b.root
  | f :: _ => .error ⟨.unclosed f.label, f.position⟩

/-- The labels of the open constructs, the document first. -/
def labels (b : Builder) : List Label := .document :: b.frames.reverse.map Frame.label

end Builder

end Stencil
