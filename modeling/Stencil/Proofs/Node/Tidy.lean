import Stencil.Proofs.Node.Settled

/-!
# Trees whose written form runs together nowhere

`Node.TidyAll inBody ns` says of a list of nodes what `Token.Settled` says of tokens: no two texts
are neighbours, no text that ends in a brace stands before a directive, and no iteration goes over a
blank other than a space. A text at the end of a list stands before a directive if the list is the
body of one. The tokens of a tidy tree are settled (`settled_tokensAll`).
-/

namespace Stencil

open Text Token

namespace Node

/-- Whether a node is written as a directive. -/
def isDirective : Node → Bool
  | .encoded _ | .interpolated _ | .evaluated _ | .iterator .. | .conditional .. => true
  | _ => false

/-- A text does not run together with the node after it, or with the end of the body. -/
def Apart (inBody : Bool) (n : Node) (next : Option Node) : Prop :=
  ∀ v, n = .text v →
    (∀ m ∈ next, m.isText = false) ∧ (next.elim inBody isDirective = true → v.getLast? ≠ some '{')

mutual

def Tidy : Node → Prop
  | .attribute _ parts => TidyAll false parts
  | .element _ attributes children => TidyAll false attributes ∧ TidyAll false children
  | .iterator iterable _ children =>
    (allBlank iterable = true → iterable = [' ']) ∧ TidyAll true children
  | .conditional _ children alternate => TidyAll true children ∧ TidyBranch alternate
  | _ => True

def TidyAll (inBody : Bool) : List Node → Prop
  | [] => True
  | n :: ns => Tidy n ∧ Apart inBody n ns.head? ∧ TidyAll inBody ns

def TidyBranch : Option (List Node) → Prop
  | none => True
  | some ns => TidyAll true ns

end

/-- The first token of a node is of the node's kind. -/
theorem first_token {z : Zone} {n : Node} (h : Placed z n) :
    ∃ t us, n.tokens = t :: us ∧ (t.isDirective = true → n.isDirective = true) ∧
      ∀ v, t = .text v → n.isText = true := by
  cases n with
  | document | foreign => exact h.elim
  | _ =>
    rw [tokens]
    exact ⟨_, _, rfl, by simp [Token.isDirective, isDirective], by simp [isText]⟩

/-- What follows a list of nodes: no text, and a directive only after a body. -/
def Follows (inBody : Bool) (ts : List Token) : Prop :=
  ∀ t ∈ ts.head?, (∀ v, t ≠ .text v) ∧ (t.isDirective = true → inBody = true)

theorem separate_of_apart {z : Zone} {inBody : Bool} {v : Text} {ns : List Node}
    {ts : List Token} (hp : PlacedAll z ns) (ha : Apart inBody (.text v) ns.head?)
    (hf : Follows inBody ts) :
    ∀ t ∈ (tokensAll ns ++ ts).head?, separate (.text v) t = true := by
  obtain ⟨htext, hbrace⟩ := ha v rfl
  intro t ht
  cases ns with
  | nil =>
    rw [tokensAll] at ht
    exact separate_text_iff.mpr ⟨(hf t ht).1, fun hd => hbrace ((hf t ht).2 hd)⟩
  | cons m ns =>
    obtain ⟨t', us, he, hd, hv⟩ := first_token hp.1
    rw [tokensAll, he] at ht
    cases ht
    refine separate_text_iff.mpr ⟨fun w hw => ?_, fun h => hbrace (hd h)⟩
    have hm := htext m rfl
    rw [hv w hw] at hm
    cases hm

/-- A list of nodes is ended by a firm token, which is a directive only after a body. -/
theorem follows_closer {inBody : Bool} {t : Token} {ts : List Token} (ht : t.isFirm = true)
    (hd : t.isDirective = false ∨ inBody = true) : Follows inBody (t :: ts) := by
  rintro _ ⟨⟩
  refine ⟨?_, fun h => hd.resolve_left (Bool.not_eq_false _ ▸ h)⟩
  rintro v rfl
  cases ht

theorem follows_alternate (alternate : Option (List Node)) {ts : List Token}
    (h : Follows true ts) : Follows true (tokensAlternate alternate ++ ts) := by
  cases alternate with
  | none =>
    rw [tokensAlternate]
    exact h
  | some ns =>
    by_cases he : IsElseIf ns
    · obtain ⟨test, children, alternate, rfl⟩ := he
      rw [tokensAlternate]
      exact follows_closer rfl (.inr rfl)
    · rw [tokensAlternate_otherwise he]
      exact follows_closer rfl (.inr rfl)

-- What follows a node matters only to a text; what follows a list matters to the text at its end.
theorem settled_of_placed_tree :
    (∀ n z ts, Placed z n → Tidy n → Settled ts →
      (∀ v, n = .text v → ∀ t ∈ ts.head?, separate (.text v) t = true) →
        Settled (n.tokens ++ ts)) ∧
      (∀ ns z inBody ts, PlacedAll z ns → TidyAll inBody ns → Settled ts → Follows inBody ts →
        Settled (tokensAll ns ++ ts)) ∧
      ∀ alternate z ts, PlacedBranch z alternate → TidyBranch alternate → Settled ts →
        Follows true ts → Settled (tokensAlternate alternate ++ ts) := by
  apply tree_induction
  case text =>
    intro v z ts _ _ hs hsep
    rw [tokens]
    exact ⟨not_false, hsep v rfl, hs⟩
  case comment | encoded | interpolated | evaluated =>
    intro _ z ts _ _ hs _
    rw [tokens]
    exact (settled_firm rfl).mpr hs
  case «attribute» =>
    intro name parts ih z ts hp ht hs _
    rw [tokens, List.cons_append, List.append_assoc]
    refine (settled_firm rfl).mpr ?_
    have hclose : Settled ([Token.closeAttribute] ++ ts) := (settled_firm rfl).mpr hs
    cases z with
    | content | value => exact hp.elim
    | area tag =>
      rw [Placed] at hp
      rw [Tidy] at ht
      obtain ⟨-, rfl | hp⟩ := hp
      · refine ⟨not_false, ?_, hclose⟩
        rintro t ⟨⟩
        rfl
      · exact ih _ _ _ hp ht hclose (follows_closer rfl (.inl rfl))
  case element =>
    intro tag attributes children iha ihc z ts hp ht hs _
    rw [Placed] at hp
    rw [Tidy] at ht
    obtain ⟨-, -, ha, hc, -⟩ := hp
    simp only [tokens, List.cons_append, List.append_assoc]
    refine (settled_firm rfl).mpr ?_
    refine iha _ _ _ ha ht.1 ((settled_firm rfl).mpr ?_) (follows_closer rfl (.inl rfl))
    exact ihc _ _ _ hc ht.2 ((settled_firm rfl).mpr hs) (follows_closer rfl (.inl rfl))
  case iterator =>
    intro iterable binder children ih z ts hp ht hs _
    rw [Placed] at hp
    rw [Tidy] at ht
    rw [tokens, List.cons_append, List.append_assoc]
    have hodd : ¬ (Token.openIterator iterable binder).IsOddBlank := fun ho => ho.2 (ht.1 ho.1)
    refine (settled_cons hodd fun _ he => ?_).mpr ?_
    · cases he
    exact ih _ _ _ hp.2 ht.2 ((settled_firm rfl).mpr hs) (follows_closer rfl (.inr rfl))
  case conditional =>
    intro test children alternate ihc iha z ts hp ht hs _
    rw [Placed] at hp
    rw [Tidy] at ht
    simp only [tokens, List.cons_append, List.append_assoc]
    have hclose : Follows true ([Token.closeConditional] ++ ts) :=
      follows_closer rfl (.inr rfl)
    refine (settled_firm rfl).mpr ?_
    refine ihc _ _ _ hp.2.1 ht.1 ?_ (follows_alternate alternate hclose)
    exact iha _ _ hp.2.2 ht.2 ((settled_firm rfl).mpr hs) hclose
  case document => exact fun _ _ _ h => h.elim
  case foreign => exact fun _ _ h => h.elim
  case nil =>
    intro z inBody ts _ _ hs _
    rw [tokensAll]
    exact hs
  case cons =>
    intro n ns ihn ihs z inBody ts hp ht hs hf
    rw [PlacedAll] at hp
    rw [TidyAll] at ht
    rw [tokensAll, List.append_assoc]
    refine ihn _ _ hp.1 ht.1 (ihs _ _ _ hp.2 ht.2.2 hs hf) ?_
    rintro v rfl
    exact separate_of_apart hp.2 ht.2.1 hf
  case absent =>
    intro z ts _ _ hs _
    rw [tokensAlternate]
    exact hs
  case elseIf =>
    intro test children alternate ihc iha z ts hp ht hs hf
    rw [PlacedBranch, PlacedAll, Placed] at hp
    rw [TidyBranch, TidyAll, Tidy] at ht
    obtain ⟨⟨-, hc, ha⟩, -⟩ := hp
    obtain ⟨⟨hct, hat⟩, -⟩ := ht
    rw [tokensAlternate, List.cons_append, List.append_assoc]
    refine (settled_firm rfl).mpr ?_
    exact ihc _ _ _ hc hct (iha _ _ ha hat hs hf) (follows_alternate alternate hf)
  case otherwise =>
    intro ns he ih z ts hp ht hs hf
    rw [tokensAlternate_otherwise he, List.cons_append]
    exact (settled_firm rfl).mpr (ih _ _ _ hp ht hs hf)

theorem settled_tokensAll {z : Zone} {inBody : Bool} {ns : List Node} {ts : List Token}
    (hp : PlacedAll z ns) (ht : TidyAll inBody ns) (hs : Settled ts) (hf : Follows inBody ts) :
    Settled (tokensAll ns ++ ts) :=
  settled_of_placed_tree.2.1 ns z inBody ts hp ht hs hf

end Node

end Stencil
