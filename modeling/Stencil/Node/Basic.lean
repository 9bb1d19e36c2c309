import Stencil.Text.Basic

/-!
# Template trees

A template is a list of nodes. One type holds the nodes of all places, because a tree may be put
together by hand: an attribute may stand where content is expected, and a `foreign` node, of which
nothing is known, may stand anywhere. What a place admits is for the operation on it to say.

A conditional without an `alternate` has no else branch; one whose alternate is a single
conditional is an else-if chain. Equality of trees is decidable (`Node.same_iff`).
-/

namespace Stencil

/-- The variables of an iteration: the item, and the index if it is wanted. -/
structure Binder where
  item : Text
  index : Option Text
deriving DecidableEq

/-- The index, if it has a name. -/
def Binder.namedIndex? (b : Binder) : Option Text := b.index.filter (!·.isEmpty)

inductive Node where
  | text (value : Text)
  | comment (value : Text)
  /-- An expression whose value is put out as text. -/
  | encoded (source : Text)
  /-- An expression whose value is put out as markup. -/
  | interpolated (source : Text)
  /-- Statements that are run and put nothing out. -/
  | evaluated (code : Text)
  /-- An attribute without parts is a flag. -/
  | attribute (name : Text) (parts : List Node)
  | element (tag : Text) (attributes : List Node) (children : List Node)
  | iterator (iterable : Text) (binder : Binder) (children : List Node)
  | conditional (test : Text) (children : List Node) (alternate : Option (List Node))
  /-- A whole template standing as a node. -/
  | document (children : List Node)
  | foreign
deriving Inhabited

namespace Node

/-! ## Equality -/

mutual

def same : Node → Node → Bool
  | .text a, .text b => a == b
  | .comment a, .comment b => a == b
  | .encoded a, .encoded b => a == b
  | .interpolated a, .interpolated b => a == b
  | .evaluated a, .evaluated b => a == b
  | .attribute m ps, .attribute n qs => m == n && sameAll ps qs
  | .element s as cs, .element t bs ds => s == t && sameAll as bs && sameAll cs ds
  | .iterator s b cs, .iterator t c ds => s == t && b == c && sameAll cs ds
  | .conditional s cs as, .conditional t ds bs => s == t && sameAll cs ds && sameBranch as bs
  | .document cs, .document ds => sameAll cs ds
  | .foreign, .foreign => true
  | _, _ => false

def sameAll : List Node → List Node → Bool
  | [], [] => true
  | a :: as, b :: bs => same a b && sameAll as bs
  | _, _ => false

def sameBranch : Option (List Node) → Option (List Node) → Bool
  | none, none => true
  | some as, some bs => sameAll as bs
  | _, _ => false

end

mutual

theorem same_iff : ∀ a b : Node, same a b = true ↔ a = b
  | .attribute _ ps, b => by cases b <;> simp [same, sameAll_iff ps]
  | .element _ as cs, b => by cases b <;> simp [same, sameAll_iff as, sameAll_iff cs, and_assoc]
  | .iterator _ _ cs, b => by cases b <;> simp [same, sameAll_iff cs, and_assoc]
  | .conditional _ cs as, b => by
    cases b <;> simp [same, sameAll_iff cs, sameBranch_iff as, and_assoc]
  | .document cs, b => by cases b <;> simp [same, sameAll_iff cs]
  | .text _, b | .comment _, b | .encoded _, b | .interpolated _, b | .evaluated _, b
  | .foreign, b => by cases b <;> simp [same]

theorem sameAll_iff : ∀ as bs : List Node, sameAll as bs = true ↔ as = bs
  | [], bs => by cases bs <;> simp [sameAll]
  | a :: as, bs => by cases bs <;> simp [sameAll, same_iff a, sameAll_iff as]

theorem sameBranch_iff : ∀ as bs : Option (List Node), sameBranch as bs = true ↔ as = bs
  | none, bs => by cases bs <;> simp [sameBranch]
  | some as, bs => by cases bs <;> simp [sameBranch, sameAll_iff as]

end

instance : DecidableEq Node := fun a b => decidable_of_iff (same a b = true) (same_iff a b)

/-! ## Kinds of nodes -/

/-- The name by which messages mention a node's kind. -/
def kindName : Node → Text
  | .text _ => "TextLiteral".toList
  | .comment _ => "CommentLiteral".toList
  | .encoded _ => "EncodedExpression".toList
  | .interpolated _ => "InterpolatedExpression".toList
  | .evaluated _ => "EvaluatedBlock".toList
  | .attribute .. => "Attribute".toList
  | .element .. => "Element".toList
  | .iterator .. => "IteratorBlock".toList
  | .conditional .. => "ConditionalBlock".toList
  | .document _ => "Document".toList
  | .foreign => "NoneType".toList

def isText : Node → Bool
  | .text _ => true
  | _ => false

def isComment : Node → Bool
  | .comment _ => true
  | _ => false

/-- The conditional that continues this one, if it is followed by an else-if. -/
def elseIf? : Node → Option Node
  | .conditional _ _ (some [.conditional test children alternate]) =>
    some (.conditional test children alternate)
  | _ => none

/-- The literal text among the nodes. -/
def literalText (nodes : List Node) : Text :=
  nodes.flatMap fun
    | .text value => value
    | _ => []

/-! ## Foreign nodes and nesting -/

mutual

/-- Whether a foreign node stands in the tree. -/
def hasForeign : Node → Bool
  | .foreign => true
  | .attribute _ parts => anyForeign parts
  | .element _ attributes children => anyForeign attributes || anyForeign children
  | .iterator _ _ children => anyForeign children
  | .conditional _ children alternate => anyForeign children || branchForeign alternate
  | .document children => anyForeign children
  | .text _ | .comment _ | .encoded _ | .interpolated _ | .evaluated _ => false

def anyForeign : List Node → Bool
  | [] => false
  | n :: ns => hasForeign n || anyForeign ns

def branchForeign : Option (List Node) → Bool
  | none => false
  | some ns => anyForeign ns

end

mutual

/-- Whether at most `room` elements, iterations and conditionals are nested in one another. -/
def fits (room : Nat) : Node → Bool
  | .attribute _ parts => allFit room parts
  | .element _ attributes children =>
    match room with
    | 0 => false
    | room + 1 => allFit room attributes && allFit room children
  | .iterator _ _ children =>
    match room with
    | 0 => false
    | room + 1 => allFit room children
  | .conditional _ children alternate =>
    match room with
    | 0 => false
    | room + 1 => allFit room children && branchFits room alternate
  | .document children => allFit room children
  | .text _ | .comment _ | .encoded _ | .interpolated _ | .evaluated _ | .foreign => true

def allFit (room : Nat) : List Node → Bool
  | [] => true
  | n :: ns => fits room n && allFit room ns

def branchFits (room : Nat) : Option (List Node) → Bool
  | none => true
  | some ns => allFit room ns

end

/-- How many elements, iterations and conditionals may be nested in one another in a tree that is
generated from or shown, unless another limit is given. -/
def nestingLimit : Nat := 600

end Node

/-- A parsed template. -/
abbrev Document := List Node

end Stencil
