import Stencil.Node.Basic

/-!
# Sites in a tree

A node stands in content, in the attribute area of an element or in the value of an attribute. The
branches of a conditional and the body of an iteration are at the site where the directive stands.
`Node.Inside p ns q ms` says that the nodes `ms` stand together at `q`, at any depth in the nodes
`ns` that stand together at `p`, and `Node.Everywhere P p ns` that all nodes there satisfy `P`, each
at its site.
-/

namespace Stencil

/-- Where a node can stand. -/
inductive Site where
  | content
  /-- In the attribute area of an element. -/
  | area
  /-- In the value of an attribute. -/
  | value
deriving DecidableEq

namespace Node

/-- The lists of nodes directly in a node that stands at `p`, with their sites. -/
def groups (p : Site) : Node → List (Site × List Node)
  | .attribute _ parts => [(.value, parts)]
  | .element _ attributes children => [(.area, attributes), (.content, children)]
  | .iterator _ _ children => [(p, children)]
  | .conditional _ children none => [(p, children)]
  | .conditional _ children (some alternate) => [(p, children), (p, alternate)]
  | .document children => [(.content, children)]
  | .text _ | .comment _ | .encoded _ | .interpolated _ | .evaluated _ | .foreign => []

inductive Inside : Site → List Node → Site → List Node → Prop where
  | here {p : Site} {ns : List Node} : Inside p ns p ns
  | within {p p' q : Site} {ns ns' ms : List Node} {n : Node} (hn : n ∈ ns)
      (hg : (p', ns') ∈ n.groups p) (h : Inside p' ns' q ms) : Inside p ns q ms

theorem Inside.mono {p q : Site} {ns ns' ms : List Node} (hi : Inside p ns q ms) (hs : ns ⊆ ns') :
    ∃ ms', Inside p ns' q ms' ∧ ms ⊆ ms' := by
  cases hi with
  | here => exact ⟨ns', .here, hs⟩
  | within hn hg hi => exact ⟨ms, .within (hs hn) hg hi, fun _ hn => hn⟩

/-- All nodes at any depth satisfy `P`, each at its site. -/
def Everywhere (P : Site → Node → Prop) (p : Site) (ns : List Node) : Prop :=
  ∀ q ms, Inside p ns q ms → ∀ n ∈ ms, P q n

/-- A node and all nodes in it satisfy `P`. -/
def Throughout (P : Site → Node → Prop) (p : Site) (n : Node) : Prop :=
  P p n ∧ ∀ g ∈ n.groups p, Everywhere P g.1 g.2

def EverywhereBranch (P : Site → Node → Prop) (p : Site) : Option (List Node) → Prop
  | none => True
  | some ns => Everywhere P p ns

section Everywhere

variable {P : Site → Node → Prop} {p : Site}

theorem everywhere_iff {ns : List Node} : Everywhere P p ns ↔ ∀ n ∈ ns, Throughout P p n := by
  constructor
  · intro h n hn
    exact ⟨h p ns .here n hn, fun g hg q ms hi => h q ms (.within hn hg hi)⟩
  · intro h q ms hi
    cases hi with
    | here => exact fun n hn => (h n hn).1
    | within hn hg hi => exact (h _ hn).2 _ hg q ms hi

theorem everywhere_nil : Everywhere P p [] := everywhere_iff.mpr fun _ hn => nomatch hn

theorem everywhere_cons {n : Node} {ns : List Node} :
    Everywhere P p (n :: ns) ↔ Throughout P p n ∧ Everywhere P p ns := by
  simp only [everywhere_iff, List.forall_mem_cons]

theorem everywhere_singleton {n : Node} : Everywhere P p [n] ↔ Throughout P p n :=
  everywhere_cons.trans (and_iff_left everywhere_nil)

theorem throughout_leaf {n : Node} (hn : n.groups p = []) : Throughout P p n ↔ P p n := by
  simp [Throughout, hn]

theorem throughout_attribute {name : Text} {parts : List Node} :
    Throughout P p (.attribute name parts) ↔
      P p (.attribute name parts) ∧ Everywhere P .value parts := by
  simp [Throughout, groups]

theorem throughout_element {tag : Text} {attributes children : List Node} :
    Throughout P p (.element tag attributes children) ↔ P p (.element tag attributes children) ∧
      Everywhere P .area attributes ∧ Everywhere P .content children := by
  simp [Throughout, groups]

theorem throughout_iterator {iterable : Text} {binder : Binder} {children : List Node} :
    Throughout P p (.iterator iterable binder children) ↔
      P p (.iterator iterable binder children) ∧ Everywhere P p children := by
  simp [Throughout, groups]

theorem throughout_conditional {test : Text} {children : List Node}
    {alternate : Option (List Node)} :
    Throughout P p (.conditional test children alternate) ↔
      P p (.conditional test children alternate) ∧ Everywhere P p children ∧
        EverywhereBranch P p alternate := by
  cases alternate <;> simp [Throughout, groups, EverywhereBranch]

end Everywhere

end Node

end Stencil
