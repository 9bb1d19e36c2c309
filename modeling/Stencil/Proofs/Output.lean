import Stencil.Component

/-!
# Output

What a template puts out is a sequence of items: elements, text and values of expressions. The
sources of tests, iterables, expressions and statements are opaque, and an `Interpretation` says
what they mean in an environment. Under an interpretation a tree has an output, and so has the
markup of the generated source, each by its own rules.
-/

namespace Stencil

/-- A meaning of sources, in environments of any kind. -/
structure Interpretation (Env Value Setting : Type) where
  /-- Whether a test holds. -/
  holds : Env → Text → Bool
  /-- The list that an iterable stands for, empty if there is none. -/
  list : Env → Text → List Value
  value : Env → Text → Value
  /-- The place of an item in its list, as a value. -/
  index : Nat → Value
  /-- The environment in which a name stands for a value. -/
  bind : Env → Text → Value → Env
  /-- The environment after statements have run. -/
  run : Env → Text → Env
  /-- What an attribute sets. -/
  setting : Env → Jsx.Attribute → Setting

inductive Item (Value Setting : Type) where
  | text (value : Text)
  /-- A value put out as text. -/
  | encoded (value : Value)
  /-- A value put out as markup by the parser of the given name. -/
  | markup (parser : Text) (value : Value)
  /-- A void element has no content. -/
  | element (tag : Text) (settings : List Setting) (content : Option (List (Item Value Setting)))

variable {Env Value Setting : Type}

/-! ## Sequences of items -/

namespace Item

/-- An item before others. Text joins the text that follows it. -/
def push : Item Value Setting → List (Item Value Setting) → List (Item Value Setting)
  | .text [], items => items
  | .text t, .text u :: items => .text (t ++ u) :: items
  | item, items => item :: items

/-- The sequence with adjacent texts joined and empty ones left out. -/
def joined (items : List (Item Value Setting)) : List (Item Value Setting) := items.foldr push []

theorem push_text_append (t u : Text) (items : List (Item Value Setting)) :
    push (.text (t ++ u)) items = push (.text t) (push (.text u) items) := by
  rcases t with _ | ⟨c, t⟩
  · rfl
  · rcases u with _ | ⟨d, u⟩
    · simp [push]
    · rcases items with _ | ⟨_ | _ | _ | _, items⟩ <;> simp [push]

theorem foldr_push_push (item : Item Value Setting) (items rest : List (Item Value Setting)) :
    (push item items).foldr push rest = push item (items.foldr push rest) := by
  unfold push
  split
  · rfl
  · exact push_text_append ..
  · rfl

/-- Joining first changes nothing in what is joined to it. -/
theorem foldr_push_joined (items rest : List (Item Value Setting)) :
    (joined items).foldr push rest = items.foldr push rest := by
  induction items with
  | nil => rfl
  | cons item items ih =>
    calc (push item (joined items)).foldr push rest
        = push item ((joined items).foldr push rest) := foldr_push_push ..
      _ = push item (items.foldr push rest) := by rw [ih]

/-- Sequences that differ in how their text is divided. -/
def Alike (a b : List (Item Value Setting)) : Prop := joined a = joined b

namespace Alike

theorem refl (a : List (Item Value Setting)) : Alike a a := rfl

theorem trans {a b c : List (Item Value Setting)} (hab : Alike a b) (hbc : Alike b c) :
    Alike a c := Eq.trans hab hbc

theorem text_append (t u : Text) :
    Alike [(.text (t ++ u) : Item Value Setting)] [.text t, .text u] := push_text_append t u []

theorem append {a b c d : List (Item Value Setting)} (hab : Alike a b) (hcd : Alike c d) :
    Alike (a ++ c) (b ++ d) := by
  have foldr_eq (xs : List (Item Value Setting)) : a.foldr push xs = b.foldr push xs := by
    rw [← foldr_push_joined a, ← foldr_push_joined b, hab]
  calc joined (a ++ c) = a.foldr push (joined c) := List.foldr_append
    _ = b.foldr push (joined d) := by rw [foldr_eq, hcd]
    _ = joined (b ++ d) := List.foldr_append.symm

theorem flatMap {α : Type} {f g : α → List (Item Value Setting)} (h : ∀ x, Alike (f x) (g x))
    (xs : List α) : Alike (xs.flatMap f) (xs.flatMap g) := by
  induction xs with
  | nil => exact .refl []
  | cons x xs ih => exact .append (h x) ih

end Alike

end Item

/-! ## Markup -/

namespace Interpretation

/-- The environment of a function's body: its parameters stand for the arguments, in order. -/
def call (I : Interpretation Env Value Setting) (env : Env) (params : List Text)
    (arguments : List Value) : Env :=
  (params.zip arguments).foldl (fun env p => I.bind env p.1 p.2) env

end Interpretation

namespace Jsx

variable (I : Interpretation Env Value Setting)

mutual

def Element.item (env : Env) : Element → Item Value Setting
  | .selfClosed tag attributes => .element tag (attributes.map (I.setting env)) none
  | .paired tag attributes children =>
    .element tag (attributes.map (I.setting env)) (some (Item.joined (Child.itemsAll env children)))

def Child.items (env : Env) : Child → List (Item Value Setting)
  | .element e => [e.item env]
  | .text value => [.text value]
  | .expression x => x.items env

def Child.itemsAll (env : Env) : List Child → List (Item Value Setting)
  | [] => []
  | c :: cs => c.items env ++ Child.itemsAll env cs

/-- The items of an expression. The function of a map is called with an item and its index. -/
def Expr.items (env : Env) : Expr → List (Item Value Setting)
  | .null => []
  | .string value => [.text value]
  | .source code => [.encoded (I.value env code)]
  | .call function argument => [.markup function (I.value env argument)]
  | .element e => [e.item env]
  | .fragment children => Child.itemsAll env children
  | .choice test yes no => if I.holds env test then yes.items env else no.items env
  | .map iterable params body =>
    (I.list env iterable).zipIdx.flatMap fun (value, i) =>
      body.items (I.call env params [value, I.index i])

end

/-- The output of an expression. -/
def Expr.output (env : Env) (x : Expr) : List (Item Value Setting) := Item.joined (x.items I env)

end Jsx

/-! ## Trees -/

/-- The environment of an iteration's body: the item has its name, and so has its place if that is
wanted. -/
def Interpretation.enter (I : Interpretation Env Value Setting) (env : Env) (binder : Binder)
    (value : Value) (i : Nat) : Env :=
  let env := I.bind env binder.item value
  match binder.namedIndex? with
  | some index => I.bind env index (I.index i)
  | none => env

namespace Node

/-- Whether nodes are text and comments only, and not all blank. -/
def isProse (nodes : List Node) : Bool :=
  nodes.all (fun n => n.isText || n.isComment) && !nodes.all isBlank

/-- The nodes of a branch, or of an iteration's body, that put nothing out. Blank text is layout
there, except within prose. -/
def isLayout (nodes : List Node) : Node → Bool := if isProse nodes then isComment else isBlank

/-- The attributes of an attribute area that is nested up to a limit. -/
def attributesOf (limit : Nat) (area : List Node) : List Jsx.Attribute :=
  match Lower.attributes limit area with
  | .ok attributes => attributes
  | .error _ => []

variable (I : Interpretation Env Value Setting) (config : Config) (limit : Nat)

mutual

def items (env : Env) : Node → List (Item Value Setting)
  | .text value => [.text value]
  | .encoded source => [.encoded (I.value env source)]
  | .interpolated source => [.markup config.parserName (I.value env source)]
  | .element tag area content =>
    let settings := (attributesOf limit area).map (I.setting env)
    if isVoid tag && content.isEmpty then [.element tag settings none]
    else [.element tag settings (some (Item.joined (itemsAll env isComment content)))]
  | .conditional test primary alternate =>
    if I.holds env test then itemsAll env (isLayout primary) primary else itemsElse env alternate
  | .iterator iterable binder content =>
    (I.list env iterable).zipIdx.flatMap fun (value, i) =>
      itemsAll (I.enter env binder value i) (isLayout content) content
  | .comment _ | .evaluated _ | .attribute .. | .document _ | .foreign => []

/-- The items of the nodes, without those to `skip`. -/
def itemsAll (env : Env) (skip : Node → Bool) : List Node → List (Item Value Setting)
  | [] => []
  | n :: ns => (if skip n then [] else n.items env) ++ itemsAll env skip ns

def itemsElse (env : Env) : Option (List Node) → List (Item Value Setting)
  | none => []
  | some ns => itemsAll env (isLayout ns) ns

end

/-- The items of a branch. -/
def branchItems (env : Env) (nodes : List Node) : List (Item Value Setting) :=
  itemsAll I config limit env (isLayout nodes) nodes

end Node

namespace Document

variable (I : Interpretation Env Value Setting) (config : Config) (limit : Nat)

/-- The items of a document. Statements before the first content run, each in the environment that
the one before it left. -/
def items (env : Env) : Document → List (Item Value Setting)
  | [] => []
  | .evaluated code :: ns => items (I.run env code) ns
  | n :: ns => if n.isBlank then items env ns else Node.branchItems I config limit env (n :: ns)

/-- The output of a document. -/
def output (env : Env) (document : Document) : List (Item Value Setting) :=
  Item.joined (items I config limit env document)

end Document

end Stencil
