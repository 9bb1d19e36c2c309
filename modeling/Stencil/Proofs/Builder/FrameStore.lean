import Mathlib.Logic.Function.Basic
import Stencil.Frame

/-!
# Frames as records that refer to each other

Another way to build the tree: every construct that has been opened is a record in a store, of one
shape for all kinds, and the stack holds references to records, with the document at the bottom.
When a record is made, it is told the list to which its node will be added, its slot, by a reference
to the record that has the list. An else-if makes a record that takes the place of the one it
continues, has the same slot, and refers back to it. An event that is refused leaves the store
behind, whatever has been done to it by then.

Nothing here keeps a record from being of the wrong kind for its fields, a slot from naming a list
that is gone, or a handler from changing a record before it refuses the event. The lemmas say what
the operations do to a store with a record on its stack.
-/

namespace Stencil

namespace FrameStore

/-! ## Records -/

inductive Kind where
  | document
  | element
  | attribute
  | iterator
  | conditional
deriving DecidableEq

/-- The lists of a record. -/
inductive Area where
  | content
  | attributes
  | alternate
deriving DecidableEq

/-- A list of the record `owner`. -/
structure Slot where
  owner : Nat
  area : Area
deriving DecidableEq

structure Record where
  kind : Kind
  position : Nat
  name : Text := []
  item : Option Text := none
  index : Option Text := none
  children : List Node := []
  attributes : List Node := []
  alternate : Option (List Node) := none
  readingAttributes : Bool := false
  /-- Where the node goes. The document has no slot: its node goes nowhere. -/
  slot : Option Slot := none
  /-- The conditional that this one continues. -/
  chainedFrom : Option Nat := none

namespace Record

def label (r : Record) : Label :=
  match r.kind with
  | .document => .document
  | .element => .element r.name
  | .attribute => .attribute r.name
  | .iterator => .iteration r.name
  | .conditional => .conditional r.name

/-- The list that takes a node now. -/
def area (r : Record) (attributeLike : Bool) : Area :=
  if r.alternate.isSome then .alternate
  else if r.readingAttributes && attributeLike then .attributes
  else .content

def add (r : Record) (area : Area) (n : Node) : Record :=
  match area with
  | .content => { r with children := r.children ++ [n] }
  | .attributes => { r with attributes := r.attributes ++ [n] }
  | .alternate => { r with alternate := r.alternate.map (· ++ [n]) }

end Record

end FrameStore

/-- The records made so far, by their numbers, and the stack of open ones, the innermost first. -/
structure FrameStore where
  records : Nat → FrameStore.Record
  next : Nat
  stack : List Nat

namespace FrameStore

/-- A store with nothing open but the document. -/
def fresh : FrameStore := ⟨fun _ => { kind := .document, position := 0 }, 1, [0]⟩

/-- The records that a record continues, the nearest first. Each was made before the one that
continues it. -/
def chain (records : Nat → Record) (i : Nat) : List Nat :=
  match (records i).chainedFrom with
  | none => []
  | some j => if _h : j < i then j :: chain records j else []
termination_by i

/-! ## Handling events -/

inductive Trouble where
  | refused (error : StructureError)
  /-- The stack is empty. -/
  | noFrame
deriving DecidableEq

end FrameStore

/-- A computation on a store, which is there after an error as well. -/
abbrev Handling := ExceptT FrameStore.Trouble (StateM FrameStore)

def Handling.on {α : Type} (x : Handling α) (s : FrameStore) :
    Except FrameStore.Trouble α × FrameStore :=
  (x.run.run s).run

namespace FrameStore

def alter (s : FrameStore) (i : Nat) (f : Record → Record) : FrameStore :=
  { s with records := Function.update s.records i (f (s.records i)) }

/-- The store with one more record on top of the given stack. -/
def push (s : FrameStore) (r : Record) (stack : List Nat) : FrameStore where
  records := Function.update s.records s.next r
  next := s.next + 1
  stack := s.next :: stack

def current : Handling Nat := do
  match (← get).stack with
  | [] => throw .noFrame
  | i :: _ => return i

def record (i : Nat) : Handling Record := return (← get).records i

def refuse {α : Type} (e : Event) (fault : StructureFault) : Handling α :=
  throw (.refused ⟨fault, e.position⟩)

/-- The list that takes a node made by the current event. -/
def target (attributeLike : Bool) : Handling Slot := do
  let i ← current
  let r ← record i
  return ⟨i, r.area attributeLike⟩

def append (slot : Slot) (n : Node) : Handling Unit :=
  modify fun s => s.alter slot.owner (·.add slot.area n)

/-- Adds a leaf. -/
def addLeaf (n : Node) (attributeLike : Bool) : Handling Unit := do
  append (← target attributeLike) n

def enter (r : Record) (attributeLike : Bool) : Handling Unit := do
  let slot ← target attributeLike
  modify fun s => s.push { r with slot := some slot } s.stack

/-- Takes the innermost record off the stack, if it is of the given kind. -/
def close (e : Event) (kind : Kind) (closing : Closing) : Handling Nat := do
  let i ← current
  let r ← record i
  if r.kind = kind then
    modify fun s => { s with stack := s.stack.tail }
    return i
  else if r.kind = .document then refuse e (.nothingOpen closing)
  else refuse e (.stillOpen closing r.label)

/-- Adds the node of a closed record to its slot. -/
def place (i : Nat) (n : Node) : Handling Unit := do
  match (← record i).slot with
  | none => return
  | some slot => append slot n

def handle (e : Event) : Handling Unit :=
  match e.token with
  | .text value => addLeaf (.text value) false
  | .comment value => addLeaf (.comment value) false
  | .encode source => addLeaf (.encoded source) true
  | .interpolate source => addLeaf (.interpolated source) true
  | .evaluate code => addLeaf (.evaluated code) true
  | .openTag name =>
    enter { kind := .element, position := e.position, name, readingAttributes := true } false
  | .openAttribute name => enter { kind := .attribute, position := e.position, name } true
  | .openIterator iterable binder =>
    enter { kind := .iterator, position := e.position, name := iterable, item := some binder.item,
            index := binder.index } true
  | .openConditional test =>
    enter { kind := .conditional, position := e.position, name := test } true
  | .stopAttributes => do
    let i ← current
    let r ← record i
    if r.kind ≠ .element ∨ r.readingAttributes = false then refuse e (.tagEndInside r.label)
    else modify fun s => s.alter i ({ · with readingAttributes := false })
  | .closeTag name => do
    let r ← record (← current)
    if r.kind = .element ∧ r.name ≠ name then refuse e (.mismatchedTag name r.name)
    else
      let i ← close e .element (.tag name)
      let r ← record i
      place i (.element r.name r.attributes r.children)
  | .closeAttribute => do
    let i ← close e .attribute .attributeValue
    let r ← record i
    place i (.attribute r.name r.children)
  | .closeIterator => do
    let i ← close e .iterator .iteration
    let r ← record i
    place i (.iterator r.name ⟨r.item.getD [], r.index⟩ r.children)
  | .closeConditional => do
    let i ← close e .conditional .conditional
    let r ← record i
    -- The chain is assembled from its end, and its first conditional places it.
    let records := (← get).records
    let earlier := chain records i
    let n := earlier.foldl
      (fun n j => Node.conditional (records j).name (records j).children (some [n]))
      (.conditional r.name r.children r.alternate)
    place (earlier.getLastD i) n
  | .elseIf test => do
    let i ← current
    let r ← record i
    if r.kind ≠ .conditional then refuse e .elseIfOutside
    else if r.alternate.isSome then refuse e .elseIfAfterElse
    else
      let chained : Record :=
        { kind := .conditional, position := e.position, name := test, slot := r.slot,
          chainedFrom := some i }
      modify fun s => s.push chained s.stack.tail
  | .otherwise => do
    let i ← current
    let r ← record i
    if r.kind ≠ .conditional then refuse e .elseOutside
    else if r.alternate.isSome then refuse e .secondElse
    else modify fun s => s.alter i ({ · with alternate := some [] })

/-- Handles the events in turn, up to the first that is refused. -/
def handleAll : List Event → Handling Unit
  | [] => return
  | e :: es => do
    handle e
    handleAll es

end FrameStore

/-! ## What the operations do -/

namespace Handling

variable {α β : Type} {s s' : FrameStore} {x : Handling α}

theorem on_bind_ok {a : α} (h : x.on s = (.ok a, s')) (f : α → Handling β) :
    (x >>= f).on s = (f a).on s' := by
  have hx : x s = (Except.ok a, s') := h
  show (ExceptT.bind x f s : Except _ _ × _) = _
  simp only [ExceptT.bind, ExceptT.mk, bind, StateT.bind, hx, ExceptT.bindCont]
  rfl

theorem on_bind_error {trouble : FrameStore.Trouble} (h : x.on s = (.error trouble, s'))
    (f : α → Handling β) : (x >>= f).on s = (.error trouble, s') := by
  have hx : x s = (Except.error trouble, s') := h
  show (ExceptT.bind x f s : Except _ _ × _) = _
  simp only [ExceptT.bind, ExceptT.mk, bind, StateT.bind, hx, ExceptT.bindCont]
  rfl

theorem on_get (s : FrameStore) (f : FrameStore → Handling β) :
    ((get : Handling FrameStore) >>= f).on s = (f s).on s := on_bind_ok rfl f

end Handling

namespace FrameStore

open Handling

variable {records : Nat → Record} {next i j : Nat} {rest : List Nat} {kind : Kind}

theorem on_record {β : Type} (i : Nat) (f : Record → Handling β) :
    (record i >>= f).on ⟨records, next, rest⟩ = (f (records i)).on ⟨records, next, rest⟩ :=
  on_bind_ok rfl f

theorem on_addLeaf (n : Node) (attributeLike : Bool) :
    (addLeaf n attributeLike).on ⟨records, next, i :: rest⟩ =
      (.ok (), alter ⟨records, next, i :: rest⟩ i
        (·.add ((records i).area attributeLike) n)) := rfl

theorem on_enter (r : Record) (attributeLike : Bool) :
    (enter r attributeLike).on ⟨records, next, i :: rest⟩ =
      (.ok (), push ⟨records, next, i :: rest⟩
        { r with slot := some ⟨i, (records i).area attributeLike⟩ } (i :: rest)) := rfl

theorem on_close_of_eq (e : Event) (closing : Closing) (h : (records i).kind = kind) :
    (close e kind closing).on ⟨records, next, i :: rest⟩ = (.ok i, ⟨records, next, rest⟩) := by
  show Handling.on (if (records i).kind = kind then _ else _) _ = _
  rw [if_pos h]
  rfl

theorem on_close_of_ne (e : Event) (closing : Closing) (h : (records i).kind ≠ kind) :
    (close e kind closing).on ⟨records, next, i :: rest⟩ =
      (.error (.refused ⟨if (records i).kind = .document then .nothingOpen closing
        else .stillOpen closing (records i).label, e.position⟩), ⟨records, next, i :: rest⟩) := by
  show Handling.on (if (records i).kind = kind then _ else if _ then _ else _) _ = _
  rw [if_neg h]
  split <;> rfl

theorem on_place {slot : Slot} (h : (records i).slot = some slot) (n : Node) :
    (place i n).on ⟨records, next, rest⟩ =
      (.ok (), alter ⟨records, next, rest⟩ slot.owner (·.add slot.area n)) := by
  rw [place, on_record, h]
  rfl

theorem on_stopAttributes (p : Nat) :
    (handle ⟨p, .stopAttributes⟩).on ⟨records, next, i :: rest⟩ =
      if (records i).kind ≠ .element ∨ (records i).readingAttributes = false then
        (.error (.refused ⟨.tagEndInside (records i).label, p⟩), ⟨records, next, i :: rest⟩)
      else
        (.ok (), alter ⟨records, next, i :: rest⟩ i ({ · with readingAttributes := false })) := by
  show Handling.on (if _ then _ else _) _ = _
  split <;> rfl

theorem on_otherwise (p : Nat) :
    (handle ⟨p, .otherwise⟩).on ⟨records, next, i :: rest⟩ =
      if (records i).kind ≠ .conditional then
        (.error (.refused ⟨.elseOutside, p⟩), ⟨records, next, i :: rest⟩)
      else if (records i).alternate.isSome then
        (.error (.refused ⟨.secondElse, p⟩), ⟨records, next, i :: rest⟩)
      else (.ok (), alter ⟨records, next, i :: rest⟩ i ({ · with alternate := some [] })) := by
  show Handling.on (if _ then _ else if _ then _ else _) _ = _
  split
  · rfl
  · split <;> rfl

theorem on_elseIf (p : Nat) (test : Text) :
    (handle ⟨p, .elseIf test⟩).on ⟨records, next, i :: rest⟩ =
      if (records i).kind ≠ .conditional then
        (.error (.refused ⟨.elseIfOutside, p⟩), ⟨records, next, i :: rest⟩)
      else if (records i).alternate.isSome then
        (.error (.refused ⟨.elseIfAfterElse, p⟩), ⟨records, next, i :: rest⟩)
      else
        (.ok (), push ⟨records, next, i :: rest⟩
          { kind := .conditional, position := p, name := test, slot := (records i).slot,
            chainedFrom := some i } rest) := by
  show Handling.on (if _ then _ else if _ then _ else _) _ = _
  split
  · rfl
  · split <;> rfl

theorem on_closeTag (p : Nat) (name : Text) :
    (handle ⟨p, .closeTag name⟩).on ⟨records, next, i :: rest⟩ =
      if (records i).kind = .element ∧ (records i).name ≠ name then
        (.error (.refused ⟨.mismatchedTag name (records i).name, p⟩), ⟨records, next, i :: rest⟩)
      else
        (close ⟨p, .closeTag name⟩ .element (.tag name) >>= fun i => do
          let r ← record i
          place i (.element r.name r.attributes r.children)).on ⟨records, next, i :: rest⟩ := by
  show Handling.on (if _ then _ else _) _ = _
  split <;> rfl

theorem chain_of_none (h : (records i).chainedFrom = none) : chain records i = [] := by
  rw [chain, h]

theorem chain_of_some (h : (records i).chainedFrom = some j) (hj : j < i) :
    chain records i = j :: chain records j := by
  rw [chain, h]
  exact dif_pos hj

end FrameStore

end Stencil
