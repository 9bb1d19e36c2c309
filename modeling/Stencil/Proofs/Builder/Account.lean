import Stencil.Proofs.Builder

/-!
# The builder keeps account

What a builder holds after any list of events, whether a scanner could give it or not. The document
is at the bottom of the stack, attributes and else branches are where they belong, and no node is
lost or held twice: the nodes placed in the document, the open frames, and what the frames have
collected are as many as the events that make a node (`Builder.account_run`).

A step is one of six things (`Builder.handle_cases`): it adds a leaf, opens a frame, closes the
innermost one, or changes it at the end of a tag, at an else or at an else-if.
-/

namespace Stencil

namespace Node

/-! ## Counting nodes -/

mutual

/-- The number of nodes in a tree. -/
def count : Node → Nat
  | .text _ | .comment _ | .encoded _ | .interpolated _ | .evaluated _ | .foreign => 1
  | .attribute _ parts => 1 + countAll parts
  | .element _ attributes children => 1 + countAll attributes + countAll children
  | .iterator _ _ children => 1 + countAll children
  | .conditional _ children alternate => 1 + countAll children + countBranch alternate
  | .document children => 1 + countAll children

def countAll : List Node → Nat
  | [] => 0
  | n :: ns => count n + countAll ns

def countBranch : Option (List Node) → Nat
  | none => 0
  | some ns => countAll ns

end

@[simp] theorem countAll_append (ms ns : List Node) :
    countAll (ms ++ ns) = countAll ms + countAll ns := by
  induction ms with
  | nil => simp [countAll]
  | cons m ms ih => rw [List.cons_append, countAll, countAll, ih, Nat.add_assoc]

@[simp] theorem countAll_singleton (n : Node) : countAll [n] = count n := by
  simp [countAll]

end Node

namespace Token

/-- The node of a token that is a leaf. -/
def leaf? : Token → Option Node
  | .text value => some (.text value)
  | .comment value => some (.comment value)
  | .encode source => some (.encoded source)
  | .interpolate source => some (.interpolated source)
  | .evaluate code => some (.evaluated code)
  | _ => none

/-- The construct that a token opens. -/
def construct? : Token → Option Construct
  | .openTag name => some (.element name true [])
  | .openAttribute name => some (.attribute name)
  | .openIterator iterable binder => some (.iterator iterable binder)
  | .openConditional test => some (.conditional test [] none)
  | _ => none

/-- Whether a token closes a construct. -/
def closes : Token → Bool
  | .closeTag _ | .closeAttribute | .closeIterator | .closeConditional => true
  | _ => false

/-- Whether a token makes a node, now or when its construct is closed. -/
def makesNode : Token → Bool
  | .openTag _ | .openAttribute _ | .text _ | .comment _ | .encode _ | .interpolate _
  | .evaluate _ | .openConditional _ | .elseIf _ | .openIterator .. => true
  | .stopAttributes | .closeTag _ | .closeAttribute | .otherwise | .closeConditional
  | .closeIterator => false

end Token

namespace Frame

open Node

/-- The tests and branches of the conditionals that a frame continues, the nearest first. -/
def earlier (f : Frame) : List (Text × List Node) :=
  match f.construct with
  | .conditional _ earlier _ => earlier
  | _ => []

/-- The number of nodes in conditionals that wait to be closed. -/
def countEarlier : List (Text × List Node) → Nat
  | [] => 0
  | branch :: waiting => 1 + countAll branch.2 + countEarlier waiting

/-- The number of nodes in a frame, its own and those of the conditionals it continues included. -/
def count (f : Frame) : Nat :=
  1 + countAll f.attributes + countAll f.children + countBranch f.alternate? +
    countEarlier f.earlier

/-- The number of nodes in a stack of frames. -/
def countStack : List Frame → Nat
  | [] => 0
  | f :: fs => f.count + countStack fs

theorem count_chain (n : Node) (earlier : List (Text × List Node)) :
    (chain n earlier).count = n.count + countEarlier earlier := by
  induction earlier generalizing n with
  | nil => rfl
  | cons branch earlier ih =>
    rw [chain, List.foldl_cons]
    refine (ih (.conditional branch.1 branch.2 (some [n]))).trans ?_
    simp only [Node.count, countBranch, countAll_singleton, countEarlier]
    omega

/-- Closing a frame keeps its nodes. -/
theorem count_node (f : Frame) : f.node.count = f.count := by
  obtain ⟨construct, position, children⟩ := f
  cases construct with
  | conditional test waiting alternate =>
    refine (count_chain _ waiting).trans ?_
    simp only [Node.count, count, attributes, alternate?, earlier, countAll, Nat.add_zero]
  | _ =>
    simp only [node, Node.count, count, attributes, alternate?, earlier, countEarlier, countAll,
      countBranch, Nat.add_zero]

theorem count_add (f : Frame) (n : Node) : (f.add n).count = f.count + n.count := by
  unfold add
  split
  case h_1 hc =>
    split <;> simp only [count, attributes, alternate?, earlier, hc, countAll_append,
      countAll_singleton] <;> omega
  case h_2 hc =>
    simp only [count, attributes, alternate?, earlier, hc, countBranch, countAll_append,
      countAll_singleton]
    omega
  case h_3 =>
    simp only [count, attributes, alternate?, earlier, countAll_append, countAll_singleton]
    omega

@[simp] theorem earlier_add (f : Frame) (n : Node) : (f.add n).earlier = f.earlier := by
  unfold add
  split
  case h_1 hc => split <;> simp [earlier, hc]
  case h_2 hc => simp [earlier, hc]
  case h_3 => rfl

end Frame

namespace Token

theorem of_leaf? {t : Token} {n : Node} (h : t.leaf? = some n) :
    t.makesNode = true ∧ n.count = 1 := by
  cases t <;> cases h <;> exact ⟨rfl, rfl⟩

theorem of_construct? {t : Token} {construct : Construct} (h : t.construct? = some construct)
    (p : Nat) : t.makesNode = true ∧ Frame.count ⟨construct, p, []⟩ = 1 ∧
      Frame.earlier ⟨construct, p, []⟩ = [] := by
  cases t <;> cases h <;> exact ⟨rfl, rfl, rfl⟩

theorem makesNode_of_closes {t : Token} (h : t.closes = true) : t.makesNode = false := by
  cases t <;> cases h <;> rfl

end Token

namespace Builder

open Node

/-- The nodes placed in the document and those of the open frames. -/
def count (b : Builder) : Nat := countAll b.root + Frame.countStack b.frames

theorem count_add (b : Builder) (n : Node) : (b.add n).count = b.count + n.count := by
  unfold add
  split
  next h =>
    simp only [count, countAll_append, countAll_singleton]
    omega
  next f fs h =>
    simp only [count, h, Frame.countStack, Frame.count_add]
    omega

theorem count_leave {b : Builder} {f : Frame} {fs : List Frame} (h : b.frames = f :: fs) :
    (b.leave f fs).count = b.count := by
  rw [leave, count_add, Frame.count_node]
  simp only [count, h, Frame.countStack]
  omega

/-! ## What a step does -/

/-- A step adds a leaf, opens a frame, closes the innermost one, or changes it: at the end of a tag,
at an else, or at an else-if, which continues a conditional that has no else branch. -/
theorem handle_cases {b b' : Builder} {p : Nat} {t : Token} (h : b.handle p t = .ok b') :
    (∃ n, t.leaf? = some n ∧ b' = b.add n) ∨
    (∃ construct, t.construct? = some construct ∧ b' = b.enter construct p) ∨
    (∃ f fs, t.closes = true ∧ b.frames = f :: fs ∧ b' = b.leave f fs) ∨
    (∃ tag attributes start children fs, t = .stopAttributes ∧
      b.frames = ⟨.element tag true attributes, start, children⟩ :: fs ∧
      b' = ⟨b.root, ⟨.element tag false attributes, start, children⟩ :: fs⟩) ∨
    (∃ test waiting start children fs, t = .otherwise ∧
      b.frames = ⟨.conditional test waiting none, start, children⟩ :: fs ∧
      b' = ⟨b.root, ⟨.conditional test waiting (some []), start, children⟩ :: fs⟩) ∨
    (∃ first waiting start children fs test, t = .elseIf test ∧
      b.frames = ⟨.conditional first waiting none, start, children⟩ :: fs ∧
      b' = ⟨b.root, ⟨.conditional test ((first, children) :: waiting) none, p, []⟩ :: fs⟩) := by
  cases t with
  | text | comment | encode | interpolate | evaluate =>
    injection h with h
    exact .inl ⟨_, rfl, h.symm⟩
  | openTag | openAttribute | openIterator | openConditional =>
    injection h with h
    exact .inr (.inl ⟨_, rfl, h.symm⟩)
  | closeTag name =>
    simp only [handle] at h
    split at h
    next hf =>
      split at h
      · injection h with h
        exact .inr (.inr (.inl ⟨_, _, rfl, hf, h.symm⟩))
      · cases h
    · cases h
  | closeAttribute | closeIterator | closeConditional =>
    simp only [handle] at h
    split at h
    next hf =>
      injection h with h
      exact .inr (.inr (.inl ⟨_, _, rfl, hf, h.symm⟩))
    · cases h
  | stopAttributes =>
    simp only [handle] at h
    split at h
    next hf =>
      injection h with h
      exact .inr (.inr (.inr (.inl ⟨_, _, _, _, _, rfl, hf, h.symm⟩)))
    · cases h
  | otherwise =>
    simp only [handle] at h
    split at h
    · cases h
    next hf =>
      injection h with h
      exact .inr (.inr (.inr (.inr (.inl ⟨_, _, _, _, _, rfl, hf, h.symm⟩))))
    · cases h
  | elseIf test =>
    simp only [handle] at h
    split at h
    · cases h
    next hf =>
      injection h with h
      exact .inr (.inr (.inr (.inr (.inr ⟨_, _, _, _, _, _, rfl, hf, h.symm⟩))))
    · cases h

/-! ## The number of nodes -/

/-- A step adds a node if its token makes one, and loses none. -/
theorem count_handle {b b' : Builder} {p : Nat} {t : Token} (h : b.handle p t = .ok b') :
    b'.count = b.count + if t.makesNode then 1 else 0 := by
  rcases handle_cases h with ⟨n, ht, rfl⟩ | ⟨construct, ht, rfl⟩ | ⟨f, fs, ht, hf, rfl⟩ |
    ⟨tag, attributes, start, children, fs, rfl, hf, rfl⟩ |
    ⟨test, waiting, start, children, fs, rfl, hf, rfl⟩ |
    ⟨first, waiting, start, children, fs, test, rfl, hf, rfl⟩
  · obtain ⟨hmakes, hn⟩ := Token.of_leaf? ht
    rw [count_add, hn, if_pos hmakes]
  · obtain ⟨hmakes, hconstruct, -⟩ := Token.of_construct? ht p
    rw [if_pos hmakes]
    simp only [enter, count, Frame.countStack, hconstruct]
    omega
  · rw [count_leave hf, Token.makesNode_of_closes ht]
    rfl
  · simp only [count, hf, Frame.countStack]
    rfl
  · simp only [count, hf, Frame.countStack]
    rfl
  · have hframe : Frame.count ⟨.conditional test ((first, children) :: waiting) none, p, []⟩ =
        Frame.count ⟨.conditional first waiting none, start, children⟩ + 1 := by
      simp only [Frame.count, Frame.attributes, Frame.alternate?, Frame.earlier, Frame.countEarlier,
        countAll, countBranch]
      omega
    simp only [count, hf, Frame.countStack, hframe, Token.makesNode, if_true]
    omega

theorem count_run {b b' : Builder} {es : List Event} (h : b.run es = .ok b') :
    b'.count = b.count + es.countP fun e => e.token.makesNode := by
  induction es generalizing b with
  | nil =>
    cases h
    rfl
  | cons e es ih =>
    obtain ⟨b₁, hhandle, hrun⟩ := run_cons_eq_ok.mp h
    rw [ih hrun, count_handle hhandle, List.countP_cons]
    omega

/-! ## Continued conditionals -/

/-- A branch of a conditional without an else branch that one of the events continues, as it was
then. -/
def Continued (es : List Event) (branch : Text × List Node) : Prop :=
  ∃ before e after next b f fs, es = before ++ e :: after ∧ e.token = .elseIf next ∧
    empty.run before = .ok b ∧ b.frames = f :: fs ∧
    f.label = .conditional branch.1 ∧ f.children = branch.2 ∧ f.alternate? = none

theorem Continued.append {es : List Event} {branch : Text × List Node} (h : Continued es branch)
    (es' : List Event) : Continued (es ++ es') branch := by
  obtain ⟨before, e, after, next, b, f, fs, rfl, h⟩ := h
  exact ⟨before, e, after ++ es', next, b, f, fs, by simp, h⟩

theorem earlier_of_mem_add {b : Builder} {n : Node} {f : Frame} (hf : f ∈ (b.add n).frames) :
    ∃ g ∈ b.frames, f.earlier = g.earlier := by
  unfold add at hf
  split at hf
  next h => exact ⟨f, hf, rfl⟩
  next g fs h =>
    rw [h]
    rcases List.mem_cons.mp hf with rfl | hf
    · exact ⟨g, List.mem_cons_self, Frame.earlier_add g n⟩
    · exact ⟨f, List.mem_cons_of_mem g hf, rfl⟩

/-- The branches that a step has waiting in a frame waited before it, or it continues them. -/
theorem earlier_of_handle {b b' : Builder} {p : Nat} {t : Token} (h : b.handle p t = .ok b')
    {f : Frame} (hf : f ∈ b'.frames) {branch : Text × List Node} (hbranch : branch ∈ f.earlier) :
    (∃ g ∈ b.frames, branch ∈ g.earlier) ∨
    ∃ next g fs, t = .elseIf next ∧ b.frames = g :: fs ∧
      g.label = .conditional branch.1 ∧ g.children = branch.2 ∧ g.alternate? = none := by
  rcases handle_cases h with ⟨n, -, rfl⟩ | ⟨construct, ht, rfl⟩ | ⟨g, fs, -, hg, rfl⟩ |
    ⟨tag, attributes, start, children, fs, -, hg, rfl⟩ |
    ⟨test, waiting, start, children, fs, -, hg, rfl⟩ |
    ⟨first, waiting, start, children, fs, test, ht, hg, rfl⟩
  · obtain ⟨g, hg, hearlier⟩ := earlier_of_mem_add hf
    exact .inl ⟨g, hg, hearlier ▸ hbranch⟩
  · rcases List.mem_cons.mp hf with rfl | hf
    · rw [(Token.of_construct? ht p).2.2] at hbranch
      cases hbranch
    · exact .inl ⟨f, hf, hbranch⟩
  · obtain ⟨g', hg', hearlier⟩ := earlier_of_mem_add hf
    exact .inl ⟨g', hg ▸ List.mem_cons_of_mem g hg', hearlier ▸ hbranch⟩
  · rcases List.mem_cons.mp hf with rfl | hf
    · cases hbranch
    · exact .inl ⟨f, hg ▸ List.mem_cons_of_mem _ hf, hbranch⟩
  · rcases List.mem_cons.mp hf with rfl | hf
    · exact .inl ⟨⟨.conditional test waiting none, start, children⟩, by simp [hg], hbranch⟩
    · exact .inl ⟨f, hg ▸ List.mem_cons_of_mem _ hf, hbranch⟩
  · rcases List.mem_cons.mp hf with rfl | hf
    · rcases List.mem_cons.mp hbranch with rfl | hbranch
      · exact .inr ⟨test, _, fs, ht, hg, rfl, rfl, rfl⟩
      · exact .inl ⟨⟨.conditional first waiting none, start, children⟩, by simp [hg], hbranch⟩
    · exact .inl ⟨f, hg ▸ List.mem_cons_of_mem _ hf, hbranch⟩

/-- The branches that wait in the frames were continued by an else-if that was read. -/
theorem continued_run {read es : List Event} {b b' : Builder} (hread : empty.run read = .ok b)
    (hb : ∀ f ∈ b.frames, ∀ branch ∈ f.earlier, Continued read branch)
    (h : b.run es = .ok b') :
    ∀ f ∈ b'.frames, ∀ branch ∈ f.earlier, Continued (read ++ es) branch := by
  induction es generalizing b read with
  | nil =>
    cases h
    rw [List.append_nil]
    exact hb
  | cons e es ih =>
    obtain ⟨b₁, hhandle, hrun⟩ := run_cons_eq_ok.mp h
    rw [List.append_cons]
    refine ih ?_ ?_ hrun
    · rw [run_append hread]
      exact run_cons_eq_ok.mpr ⟨b₁, hhandle, rfl⟩
    · intro f hf branch hbranch
      rcases earlier_of_handle hhandle hf hbranch with
        ⟨g, hg, hwaits⟩ | ⟨next, g, fs, ht, hg, hstood⟩
      · exact (hb g hg branch hwaits).append [e]
      · exact ⟨read, e, [], next, b, g, fs, rfl, ht, hread, hg, hstood⟩

/-! ## Refused events -/

theorem trace_append {b b₁ : Builder} {es es' : List Event} (h : b.run es = .ok b₁) :
    b.trace (es ++ es') = ((b.trace es).1 ++ (b₁.trace es').1, (b₁.trace es').2) := by
  induction es generalizing b with
  | nil =>
    cases h
    rfl
  | cons e es ih =>
    obtain ⟨b₂, hhandle, hrun⟩ := run_cons_eq_ok.mp h
    simp only [List.cons_append, trace, step_eq_ok.mpr hhandle, ih hrun]

theorem getLast?_trace {b b₁ : Builder} {es : List Event} (h : b.run es = .ok b₁) :
    (b :: (b.trace es).1).getLast? = some b₁ := by
  induction es generalizing b with
  | nil =>
    cases h
    rfl
  | cons e es ih =>
    obtain ⟨b₂, hhandle, hrun⟩ := run_cons_eq_ok.mp h
    simp only [trace, step_eq_ok.mpr hhandle]
    rw [List.getLast?_cons_cons]
    exact ih hrun

/-! ## The account -/

/-- What holds of a builder after the events. -/
structure Account (es : List Event) (b : Builder) : Prop where
  /-- The document is the outermost construct, and only that. -/
  document : ∃ inner, b.labels = .document :: inner ∧ .document ∉ inner
  /-- Only an element reads attributes or holds any. -/
  attributes : ∀ f ∈ b.frames, f.readsAttributes = true ∨ f.attributes ≠ [] →
    ∃ tag, f.label = .element tag
  /-- Only a conditional has an else branch. -/
  alternates : ∀ f ∈ b.frames, f.alternate? ≠ none → ∃ test, f.label = .conditional test
  /-- A branch that waits for the end of its chain belongs to a conditional that had no else branch
  when the chain went on, and is as it was then. -/
  chains : ∀ f ∈ b.frames, ∀ branch ∈ f.earlier, Continued es branch
  /-- No node is lost and none is there twice. -/
  nodes : b.count = es.countP fun e => e.token.makesNode
  /-- A refused event ends the trace with the builder as it was. -/
  refusals : ∀ e error rest, b.step e = .error error →
    empty.trace (es ++ e :: rest) = ((empty.trace es).1, some error) ∧
    (empty :: (empty.trace (es ++ e :: rest)).1).getLast? = some b

/-- Every list of events that is handled leaves a builder that keeps account. -/
theorem account_run {es : List Event} {b : Builder} (h : empty.run es = .ok b) :
    Account es b where
  document := by
    refine ⟨_, rfl, fun hdocument => ?_⟩
    obtain ⟨f, -, hf⟩ := List.mem_map.mp hdocument
    obtain ⟨construct, position, children⟩ := f
    cases construct <;> cases hf
  attributes := by
    rintro ⟨construct, position, children⟩ - hf
    cases construct with
    | element tag => exact ⟨tag, rfl⟩
    | _ => simp [Frame.readsAttributes, Frame.attributes] at hf
  alternates := by
    rintro ⟨construct, position, children⟩ - hf
    cases construct with
    | conditional test => exact ⟨test, rfl⟩
    | _ => exact (hf rfl).elim
  chains := by
    have hnone : ∀ f ∈ empty.frames, ∀ branch ∈ f.earlier, Continued [] branch := by
      simp [empty]
    exact continued_run rfl hnone h
  nodes := by
    have hempty : empty.count = 0 := rfl
    rw [count_run h, hempty, Nat.zero_add]
  refusals := by
    intro e error rest hstep
    have htrace : empty.trace (es ++ e :: rest) = ((empty.trace es).1, some error) := by
      rw [trace_append h, trace, hstep, List.append_nil]
    exact ⟨htrace, htrace ▸ getLast?_trace h⟩

end Builder

end Stencil
