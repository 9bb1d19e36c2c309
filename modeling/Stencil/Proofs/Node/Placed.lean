import Stencil.Proofs.Event.Stream
import Stencil.Proofs.Node.Linear

/-!
# What stands where

`Node.Placed z n` says that the node `n` can stand in the zone `z` and that everything in it stands
where it can: attributes in the attribute area of an element, elements and comments in content, text
in content and in attribute values, directives everywhere. The texts of the nodes are of the classes
that their tokens have.

A linear form of a tree is part of a token stream exactly if the tree is placed
(`LinearAll.placed`, `stream_tokensAll`).
-/

namespace Stencil

open Text

namespace Node

mutual

def Placed (z : Zone) : Node → Prop
  | .text value =>
    match z with
    | .content => IsRun '<' value
    | .area _ => False
    | .value _ => IsRun '\x22' value
  | .comment value => z = .content ∧ IsCommentText value
  | .encoded source | .interpolated source | .evaluated source => IsSource source
  | .attribute name parts =>
    match z with
    | .area tag =>
      IsAttributeName name ∧ (parts = [.text []] ∨ PlacedAll (.value tag) parts)
    | _ => False
  | .element tag attributes children =>
    z = .content ∧ IsTagName tag ∧ PlacedAll (.area tag) attributes ∧
      PlacedAll .content children ∧ (isVoid tag = true → children = [])
  | .iterator iterable binder children => IsHeader iterable binder ∧ PlacedAll z children
  | .conditional test children alternate =>
    IsSource test ∧ PlacedAll z children ∧ PlacedBranch z alternate
  | .document _ | .foreign => False

def PlacedAll (z : Zone) : List Node → Prop
  | [] => True
  | n :: ns => Placed z n ∧ PlacedAll z ns

def PlacedBranch (z : Zone) : Option (List Node) → Prop
  | none => True
  | some ns => PlacedAll z ns

end

theorem placedAll_of_forall {z : Zone} {ns : List Node} (h : ∀ n ∈ ns, Placed z n) :
    PlacedAll z ns := by
  induction ns with
  | nil => trivial
  | cons n ns ih =>
    obtain ⟨hn, hns⟩ := List.forall_mem_cons.mp h
    exact ⟨hn, ih hns⟩

/-! ## Trees of a stream -/

/-- A directive leaves the stream in its zone. -/
theorem directive_of_stream {z : Zone} {t : Token} {ts : List Token} (ht : t.isDirective = true)
    (h : Stream z (t :: ts)) : t.IsDirective ∧ Stream z ts := by
  cases h with
  | directive ht h => exact ⟨ht, h⟩
  | _ => cases ht

theorem openTag_of_stream {z : Zone} {tag : Text} {ts : List Token}
    (h : Stream z (.openTag tag :: ts)) : z = .content ∧ IsTagName tag ∧ Stream (.area tag) ts := by
  cases h with
  | directive ht => exact ht.elim
  | openTag ht h => exact ⟨rfl, ht, h⟩

theorem closeTag_of_stream {tag : Text} {ts : List Token}
    (h : Stream .content (.closeTag tag :: ts)) : Stream .content ts := by
  cases h with
  | directive ht => exact ht.elim
  | closeTag _ h => exact h

/-- A flag opens a value that is closed at once. -/
theorem openAttribute_of_stream {z : Zone} {name : Text} {ts : List Token}
    (h : Stream z (.openAttribute name :: ts)) :
    ∃ tag, z = .area tag ∧ IsAttributeName name ∧
      (Stream (.value tag) ts ∨
        ∃ us, ts = .text [] :: .closeAttribute :: us ∧ Stream (.area tag) us) := by
  cases h with
  | directive ht => exact ht.elim
  | flag ha h => exact ⟨_, rfl, ha, .inl (.closeValue h)⟩
  | emptyValue ha h => exact ⟨_, rfl, ha, .inr ⟨_, rfl, h⟩⟩
  | openValue ha _ h => exact ⟨_, rfl, ha, .inl h⟩

theorem stop_of_stream {tag : Text} {ts : List Token}
    (h : Stream (.area tag) (.stopAttributes :: ts)) :
    (isVoid tag = false ∧ Stream .content ts) ∨
      ∃ us, ts = .closeTag tag :: us ∧ Stream .content us := by
  cases h with
  | directive ht => exact ht.elim
  | stop hv h => exact .inl ⟨hv, h⟩
  | stopClosed h => exact .inr ⟨_, rfl, h⟩

theorem text_of_stream {z : Zone} {value : Text} {ts : List Token}
    (h : Stream z (.text value :: ts)) : Placed z (.text value) ∧ Stream z ts := by
  cases h with
  | directive ht => exact ht.elim
  | text hv h => exact ⟨hv, h⟩
  | valueText hv h => exact ⟨hv, h⟩

theorem comment_of_stream {z : Zone} {value : Text} {ts : List Token}
    (h : Stream z (.comment value :: ts)) : Placed z (.comment value) ∧ Stream z ts := by
  cases h with
  | directive ht => exact ht.elim
  | comment hv h => exact ⟨⟨rfl, hv⟩, h⟩

/-- The parts of an empty value. -/
theorem LinearAll.emptyValue {parts : List Node} {us ts ts' : List Token} (h : LinearAll parts us)
    (he : us ++ .closeAttribute :: ts = .text [] :: .closeAttribute :: ts') :
    parts = [.text []] ∧ ts = ts' := by
  cases h with
  | nil => cases he
  | cons hn hs =>
    cases hn with
    | text value =>
      injection he with hv he
      cases hv
      obtain ⟨rfl, he⟩ := hs.eq_nil rfl he
      cases he
      exact ⟨rfl, rfl⟩
    | _ => cases he

mutual

theorem Linear.placed {z : Zone} {n : Node} {us ts : List Token} :
    Linear n us → Stream z (us ++ ts) → Placed z n ∧ Stream z ts
  | .text _, h => text_of_stream h
  | .comment _, h => comment_of_stream h
  | .encoded _, h | .interpolated _, h | .evaluated _, h => directive_of_stream rfl h
  | .attribute hp, h => by
    rw [List.cons_append, List.append_assoc] at h
    obtain ⟨tag, rfl, hname, h | ⟨ws, he, h⟩⟩ := openAttribute_of_stream h
    · obtain ⟨hparts, h⟩ := LinearAll.placed hp h
      exact ⟨⟨hname, .inr hparts⟩, h.of_closeValue⟩
    · obtain ⟨rfl, rfl⟩ := hp.emptyValue he
      exact ⟨⟨hname, .inl rfl⟩, h⟩
  | .element ha hc, h => by
    simp only [List.cons_append, List.append_assoc] at h
    obtain ⟨rfl, htag, h⟩ := openTag_of_stream h
    obtain ⟨hattributes, h⟩ := LinearAll.placed ha h
    rcases stop_of_stream h with ⟨hvoid, h⟩ | ⟨ws, he, h⟩
    · obtain ⟨hchildren, h⟩ := LinearAll.placed hc h
      refine ⟨⟨rfl, htag, hattributes, hchildren, fun hv => ?_⟩, closeTag_of_stream h⟩
      rw [hvoid] at hv
      cases hv
    · obtain ⟨rfl, he⟩ := hc.eq_nil rfl he
      cases he
      exact ⟨⟨rfl, htag, hattributes, trivial, fun _ => rfl⟩, h⟩
  | .iterator hc, h => by
    rw [List.cons_append, List.append_assoc] at h
    obtain ⟨hheader, h⟩ := directive_of_stream rfl h
    obtain ⟨hchildren, h⟩ := LinearAll.placed hc h
    exact ⟨⟨hheader, hchildren⟩, (directive_of_stream rfl h).2⟩
  | .conditional hc ha, h => by
    simp only [List.cons_append, List.append_assoc] at h
    obtain ⟨htest, h⟩ := directive_of_stream rfl h
    obtain ⟨hchildren, h⟩ := LinearAll.placed hc h
    obtain ⟨halternate, h⟩ := LinearBranch.placed ha h
    exact ⟨⟨htest, hchildren, halternate⟩, (directive_of_stream rfl h).2⟩

theorem LinearAll.placed {z : Zone} {ns : List Node} {us ts : List Token} :
    LinearAll ns us → Stream z (us ++ ts) → PlacedAll z ns ∧ Stream z ts
  | .nil, h => ⟨trivial, h⟩
  | .cons hn hs, h => by
    rw [List.append_assoc] at h
    obtain ⟨hplaced, h⟩ := Linear.placed hn h
    obtain ⟨hrest, h⟩ := LinearAll.placed hs h
    exact ⟨⟨hplaced, hrest⟩, h⟩

theorem LinearBranch.placed {z : Zone} {alternate : Option (List Node)} {us ts : List Token} :
    LinearBranch alternate us → Stream z (us ++ ts) → PlacedBranch z alternate ∧ Stream z ts
  | .absent, h => ⟨trivial, h⟩
  | .otherwise hs, h => LinearAll.placed hs (directive_of_stream rfl h).2
  | .elseIf hc ha, h => by
    simp only [List.cons_append, List.append_assoc] at h
    obtain ⟨htest, h⟩ := directive_of_stream rfl h
    obtain ⟨hchildren, h⟩ := LinearAll.placed hc h
    obtain ⟨halternate, h⟩ := LinearBranch.placed ha h
    exact ⟨⟨⟨htest, hchildren, halternate⟩, trivial⟩, h⟩

end

/-! ## Streams of a tree -/

theorem linear_of_placed_tree :
    (∀ n z, Placed z n → Linear n n.tokens) ∧
      (∀ ns z, PlacedAll z ns → LinearAll ns (tokensAll ns)) ∧
      ∀ alternate z, PlacedBranch z alternate →
        LinearBranch alternate (tokensAlternate alternate) := by
  apply tree_induction
  case text | comment | encoded | interpolated | evaluated =>
    intros
    rw [tokens]
    constructor
  case «attribute» =>
    intro name parts ih z h
    rw [tokens]
    cases z with
    | content | value => exact h.elim
    | area tag =>
      rw [Placed] at h
      rcases h.2 with rfl | h
      · exact .attribute (.singleton (.text []))
      · exact .attribute (ih _ h)
  case element =>
    intro tag attributes children iha ihc z h
    rw [Placed] at h
    obtain ⟨-, -, ha, hc, -⟩ := h
    rw [tokens]
    exact .element (iha _ ha) (ihc _ hc)
  case iterator =>
    intro iterable binder children ih z h
    rw [Placed] at h
    rw [tokens]
    exact .iterator (ih _ h.2)
  case conditional =>
    intro test children alternate ihc iha z h
    rw [Placed] at h
    rw [tokens]
    exact .conditional (ihc _ h.2.1) (iha _ h.2.2)
  case document => exact fun _ _ h => h.elim
  case foreign => exact fun _ h => h.elim
  case nil =>
    intros
    rw [tokensAll]
    exact .nil
  case cons =>
    intro n ns ihn ihs z h
    rw [PlacedAll] at h
    rw [tokensAll]
    exact .cons (ihn _ h.1) (ihs _ h.2)
  case absent =>
    intros
    rw [tokensAlternate]
    exact .absent
  case elseIf =>
    intro test children alternate ihc iha z h
    rw [PlacedBranch, PlacedAll, Placed] at h
    obtain ⟨⟨-, hc, ha⟩, -⟩ := h
    rw [tokensAlternate]
    exact .elseIf (ihc _ hc) (iha _ ha)
  case otherwise =>
    intro ns he ih z h
    rw [tokensAlternate_otherwise he]
    exact .otherwise (ih _ h)

theorem linear_tokens {z : Zone} {n : Node} (h : Placed z n) : Linear n n.tokens :=
  linear_of_placed_tree.1 n z h

theorem linearAll_tokensAll {z : Zone} {ns : List Node} (h : PlacedAll z ns) :
    LinearAll ns (tokensAll ns) :=
  linear_of_placed_tree.2.1 ns z h

theorem stream_openAttribute {tag name : Text} {ts : List Token} (hn : IsAttributeName name)
    (h : Stream (.value tag) ts) : Stream (.area tag) (.openAttribute name :: ts) := by
  cases ts with
  | nil => cases h
  | cons t ts =>
    by_cases ht : t = .closeAttribute
    · subst ht
      exact .flag hn h.of_closeValue
    · exact .openValue hn ht h

theorem stream_of_placed_tree :
    (∀ n z ts, Placed z n → Stream z ts → Stream z (n.tokens ++ ts)) ∧
      (∀ ns z ts, PlacedAll z ns → Stream z ts → Stream z (tokensAll ns ++ ts)) ∧
      ∀ alternate z ts, PlacedBranch z alternate → Stream z ts →
        Stream z (tokensAlternate alternate ++ ts) := by
  apply tree_induction
  case text =>
    intro value z ts h hs
    rw [tokens]
    cases z with
    | content => exact .text h hs
    | area => exact h.elim
    | value => exact .valueText h hs
  case comment =>
    intro value z ts h hs
    rw [tokens]
    obtain ⟨rfl, h⟩ := h
    exact .comment h hs
  case encoded | interpolated | evaluated =>
    intro source z ts h hs
    rw [tokens]
    exact .directive h hs
  case «attribute» =>
    intro name parts ih z ts h hs
    rw [tokens, List.cons_append, List.append_assoc]
    cases z with
    | content | value => exact h.elim
    | area tag =>
      rw [Placed] at h
      obtain ⟨hname, rfl | h⟩ := h
      · exact .emptyValue hname hs
      · exact stream_openAttribute hname (ih _ _ h (.closeValue hs))
  case element =>
    intro tag attributes children iha ihc z ts h hs
    rw [Placed] at h
    obtain ⟨rfl, htag, ha, hc, hvoid⟩ := h
    simp only [tokens, List.cons_append, List.append_assoc]
    refine .openTag htag (iha _ _ ha ?_)
    cases hv : isVoid tag with
    | true =>
      rw [hvoid hv]
      exact .stopClosed hs
    | false => exact .stop hv (ihc _ _ hc (.closeTag (htag.isClosingName hv) hs))
  case iterator =>
    intro iterable binder children ih z ts h hs
    rw [Placed] at h
    rw [tokens, List.cons_append, List.append_assoc]
    exact .directive h.1 (ih _ _ h.2 (.directive trivial hs))
  case conditional =>
    intro test children alternate ihc iha z ts h hs
    rw [Placed] at h
    simp only [tokens, List.cons_append, List.append_assoc]
    exact .directive h.1 (ihc _ _ h.2.1 (iha _ _ h.2.2 (.directive trivial hs)))
  case document => exact fun _ _ _ h => h.elim
  case foreign => exact fun _ _ h => h.elim
  case nil =>
    intro z ts _ hs
    rw [tokensAll]
    exact hs
  case cons =>
    intro n ns ihn ihs z ts h hs
    rw [PlacedAll] at h
    rw [tokensAll, List.append_assoc]
    exact ihn _ _ h.1 (ihs _ _ h.2 hs)
  case absent =>
    intro z ts _ hs
    rw [tokensAlternate]
    exact hs
  case elseIf =>
    intro test children alternate ihc iha z ts h hs
    rw [PlacedBranch, PlacedAll, Placed] at h
    obtain ⟨⟨htest, hc, ha⟩, -⟩ := h
    rw [tokensAlternate, List.cons_append, List.append_assoc]
    exact .directive htest (ihc _ _ hc (iha _ _ ha hs))
  case otherwise =>
    intro ns he ih z ts h hs
    rw [tokensAlternate_otherwise he]
    exact .directive trivial (ih _ _ h hs)

theorem stream_tokensAll {z : Zone} {ns : List Node} {ts : List Token} (h : PlacedAll z ns)
    (hs : Stream z ts) : Stream z (tokensAll ns ++ ts) :=
  stream_of_placed_tree.2.1 ns z ts h hs

end Node

end Stencil
