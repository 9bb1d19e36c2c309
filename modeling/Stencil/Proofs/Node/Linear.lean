import Stencil.Event.Basic

/-!
# Linear form of a tree

`Node.Linear n ts` says that the tokens `ts` are a linear form of the node `n`: the token of a leaf,
or the tokens of a construct's parts between its opening and its closing token. A tree can have
several of them, because a conditional that is the whole else branch of another one may continue it
as an else-if or be nested in its else. `Node.tokens` is the form that continues wherever it can.

Two linear forms of one tree differ first where a branch begins (`not_clash`).
-/

namespace Stencil

namespace Token

/-- Whether a token is the first of some node. -/
def beginsNode : Token → Bool
  | .text _ | .comment _ | .encode _ | .interpolate _ | .evaluate _ | .openTag _
  | .openAttribute _ | .openIterator _ _ | .openConditional _ => true
  | _ => false

/-- Whether a token begins a further branch of a conditional. -/
def beginsBranch : Token → Bool
  | .elseIf _ | .otherwise => true
  | _ => false

/-- The first difference is at a token of the first list that begins no further branch. -/
def Clash : List Token → List Token → Prop
  | [], _ => False
  | t :: _, [] => t.beginsBranch = false
  | t :: ts, t' :: ts' => (t ≠ t' ∧ t.beginsBranch = false) ∨ (t = t' ∧ Clash ts ts')

theorem Clash.tail {t : Token} {ts ts' : List Token} (h : Clash (t :: ts) (t :: ts')) :
    Clash ts ts' := by
  rcases h with ⟨h, _⟩ | ⟨_, h⟩
  · exact absurd rfl h
  · exact h

theorem Clash.of_ne {t t' : Token} {ts ts' : List Token} (h : Clash (t :: ts) (t' :: ts'))
    (hne : t ≠ t') : t.beginsBranch = false := by
  rcases h with ⟨_, h⟩ | ⟨h, _⟩
  · exact h
  · exact absurd h hne

end Token

namespace Node

mutual

inductive Linear : Node → List Token → Prop where
  | text (value : Text) : Linear (.text value) [.text value]
  | comment (value : Text) : Linear (.comment value) [.comment value]
  | encoded (source : Text) : Linear (.encoded source) [.encode source]
  | interpolated (source : Text) : Linear (.interpolated source) [.interpolate source]
  | evaluated (code : Text) : Linear (.evaluated code) [.evaluate code]
  | attribute {name : Text} {parts : List Node} {us : List Token} (hp : LinearAll parts us) :
      Linear (.attribute name parts) (.openAttribute name :: (us ++ [.closeAttribute]))
  | element {tag : Text} {attributes children : List Node} {us vs : List Token}
      (ha : LinearAll attributes us) (hc : LinearAll children vs) :
      Linear (.element tag attributes children)
        (.openTag tag :: (us ++ .stopAttributes :: (vs ++ [.closeTag tag])))
  | iterator {iterable : Text} {binder : Binder} {children : List Node} {us : List Token}
      (hc : LinearAll children us) :
      Linear (.iterator iterable binder children)
        (.openIterator iterable binder :: (us ++ [.closeIterator]))
  | conditional {test : Text} {children : List Node} {alternate : Option (List Node)}
      {us vs : List Token} (hc : LinearAll children us) (ha : LinearBranch alternate vs) :
      Linear (.conditional test children alternate)
        (.openConditional test :: (us ++ (vs ++ [.closeConditional])))

inductive LinearAll : List Node → List Token → Prop where
  | nil : LinearAll [] []
  | cons {n : Node} {ns : List Node} {us vs : List Token} (hn : Linear n us)
      (hs : LinearAll ns vs) : LinearAll (n :: ns) (us ++ vs)

/-- The tokens of an else branch, up to the closing token of the conditional. -/
inductive LinearBranch : Option (List Node) → List Token → Prop where
  | absent : LinearBranch none []
  | otherwise {ns : List Node} {us : List Token} (h : LinearAll ns us) :
      LinearBranch (some ns) (.otherwise :: us)
  | elseIf {test : Text} {children : List Node} {alternate : Option (List Node)}
      {us vs : List Token} (hc : LinearAll children us) (ha : LinearBranch alternate vs) :
      LinearBranch (some [.conditional test children alternate]) (.elseIf test :: (us ++ vs))

end

theorem LinearAll.singleton {n : Node} {us : List Token} (h : Linear n us) : LinearAll [n] us :=
  List.append_nil us ▸ LinearAll.cons h .nil

theorem LinearAll.append {ms ns : List Node} {us vs : List Token} (hm : LinearAll ms us)
    (hn : LinearAll ns vs) : LinearAll (ms ++ ns) (us ++ vs) := by
  induction ms generalizing us with
  | nil =>
    cases hm
    exact hn
  | cons m ms ih =>
    cases hm with
    | cons hm hms =>
      rw [List.append_assoc]
      exact .cons hm (ih hms)

theorem LinearAll.snoc {ns : List Node} {n : Node} {us vs : List Token} (hs : LinearAll ns us)
    (hn : Linear n vs) : LinearAll (ns ++ [n]) (us ++ vs) :=
  hs.append (.singleton hn)

/-! ## The linear form that continues -/

mutual

def tokens : Node → List Token
  | .text value => [.text value]
  | .comment value => [.comment value]
  | .encoded source => [.encode source]
  | .interpolated source => [.interpolate source]
  | .evaluated code => [.evaluate code]
  | .attribute name parts => .openAttribute name :: (tokensAll parts ++ [.closeAttribute])
  | .element tag attributes children =>
    .openTag tag :: (tokensAll attributes ++ .stopAttributes :: (tokensAll children ++
      [.closeTag tag]))
  | .iterator iterable binder children =>
    .openIterator iterable binder :: (tokensAll children ++ [.closeIterator])
  | .conditional test children alternate =>
    .openConditional test :: (tokensAll children ++ (tokensAlternate alternate ++
      [.closeConditional]))
  | .document _ | .foreign => []

def tokensAll : List Node → List Token
  | [] => []
  | n :: ns => tokens n ++ tokensAll ns

def tokensAlternate : Option (List Node) → List Token
  | none => []
  | some [.conditional test children alternate] =>
    .elseIf test :: (tokensAll children ++ tokensAlternate alternate)
  | some ns => .otherwise :: tokensAll ns

end

/-- An else branch that is one conditional, and so continues as an else-if. -/
def IsElseIf (ns : List Node) : Prop :=
  ∃ test children alternate, ns = [.conditional test children alternate]

theorem tokensAlternate_otherwise {ns : List Node} (h : ¬ IsElseIf ns) :
    tokensAlternate (some ns) = .otherwise :: tokensAll ns := by
  rw [tokensAlternate]
  intro test children alternate he
  exact h ⟨test, children, alternate, he⟩

/-- Induction over trees in which an else-if is a case of its own, as it is for the tokens. -/
theorem tree_induction {P : Node → Prop} {Q : List Node → Prop} {R : Option (List Node) → Prop}
    (text : ∀ value, P (.text value)) (comment : ∀ value, P (.comment value))
    (encoded : ∀ source, P (.encoded source)) (interpolated : ∀ source, P (.interpolated source))
    (evaluated : ∀ code, P (.evaluated code))
    («attribute» : ∀ name parts, Q parts → P (.attribute name parts))
    (element : ∀ tag attributes children, Q attributes → Q children →
      P (.element tag attributes children))
    (iterator : ∀ iterable binder children, Q children → P (.iterator iterable binder children))
    (conditional : ∀ test children alternate, Q children → R alternate →
      P (.conditional test children alternate))
    (document : ∀ children, P (.document children)) (foreign : P .foreign)
    (nil : Q []) (cons : ∀ n ns, P n → Q ns → Q (n :: ns)) (absent : R none)
    (elseIf : ∀ test children alternate, Q children → R alternate →
      R (some [.conditional test children alternate]))
    (otherwise : ∀ ns, ¬ IsElseIf ns → Q ns → R (some ns)) :
    (∀ n, P n) ∧ (∀ ns, Q ns) ∧ ∀ alternate, R alternate := by
  have h := tokens.mutual_induct P R Q text comment encoded interpolated evaluated «attribute»
    element iterator conditional document foreign nil cons absent elseIf fun ns hns =>
      otherwise ns fun ⟨test, children, alternate, he⟩ => hns test children alternate he
  exact ⟨h.1, h.2.2, h.2.1⟩

/-! ## The first token -/

theorem Linear.head {n : Node} {ts : List Token} (h : Linear n ts) :
    ∃ t us, ts = t :: us ∧ t.beginsNode = true := by
  cases h <;> exact ⟨_, _, rfl, rfl⟩

/-- What follows a linear form begins where a token stands that begins no node. -/
theorem LinearAll.eq_nil {ns : List Node} {t : Token} {us ts ts' : List Token}
    (h : LinearAll ns us) (ht : t.beginsNode = false) (he : us ++ ts = t :: ts') :
    ns = [] ∧ ts = t :: ts' := by
  cases h with
  | nil => exact ⟨rfl, he⟩
  | cons hn hs =>
    obtain ⟨t', vs, rfl, ht'⟩ := hn.head
    injection he with he
    rw [he, ht] at ht'
    cases ht'

/-! ## Differences between linear forms -/

-- The recursion is on the first form; what follows both forms is passed along.
mutual

theorem Linear.clash {n : Node} {us vs us' vs' : List Token} :
    Linear n us → Linear n us' → Token.Clash (us ++ vs) (us' ++ vs') → Token.Clash vs vs'
  | .text _, .text _, hc | .comment _, .comment _, hc | .encoded _, .encoded _, hc
  | .interpolated _, .interpolated _, hc | .evaluated _, .evaluated _, hc => hc.tail
  | .attribute hp, .attribute hp', hc => by
    simp only [List.cons_append, List.append_assoc] at hc
    exact (LinearAll.clash hp hp' hc.tail).tail
  | .element ha hs, .element ha' hs', hc => by
    simp only [List.cons_append, List.append_assoc] at hc
    exact (LinearAll.clash hs hs' (LinearAll.clash ha ha' hc.tail).tail).tail
  | .iterator hs, .iterator hs', hc => by
    simp only [List.cons_append, List.append_assoc] at hc
    exact (LinearAll.clash hs hs' hc.tail).tail
  | .conditional hs ha, .conditional hs' ha', hc => by
    simp only [List.cons_append, List.append_assoc] at hc
    exact (LinearBranch.clash ha ha' (LinearAll.clash hs hs' hc.tail)).tail

theorem LinearAll.clash {ns : List Node} {us vs us' vs' : List Token} :
    LinearAll ns us → LinearAll ns us' → Token.Clash (us ++ vs) (us' ++ vs') →
      Token.Clash vs vs'
  | .nil, .nil, hc => hc
  | .cons hn hs, .cons hn' hs', hc => by
    rw [List.append_assoc, List.append_assoc] at hc
    exact LinearAll.clash hs hs' (Linear.clash hn hn' hc)

theorem LinearBranch.clash {alternate : Option (List Node)} {us vs us' vs' : List Token} :
    LinearBranch alternate us → LinearBranch alternate us' →
      Token.Clash (us ++ vs) (us' ++ vs') → Token.Clash vs vs'
  | .absent, .absent, hc => hc
  | .otherwise hs, .otherwise hs', hc => LinearAll.clash hs hs' hc.tail
  | .otherwise _, .elseIf _ _, hc => absurd (hc.of_ne nofun) nofun
  | .elseIf _ _, .otherwise _, hc => absurd (hc.of_ne nofun) nofun
  | .elseIf hs ha, .elseIf hs' ha', hc => by
    simp only [List.cons_append, List.append_assoc] at hc
    exact LinearBranch.clash ha ha' (LinearAll.clash hs hs' hc.tail)

end

/-- Two linear forms of one tree do not clash. -/
theorem LinearAll.not_clash {ns : List Node} {us us' : List Token} (h : LinearAll ns us)
    (h' : LinearAll ns us') : ¬ Token.Clash us us' := by
  intro hc
  rw [← List.append_nil us, ← List.append_nil us'] at hc
  exact LinearAll.clash h h' hc

end Node

end Stencil
