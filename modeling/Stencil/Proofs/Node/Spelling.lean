import Stencil.Proofs.Node.Placed

/-!
# Written form, token by token

The written form of a tree is put down token by token: `write` walks through a linear form with a
`Pen`, which knows what has been written last. In an attribute area a space stands before each node,
except for the first one of a body, and nowhere else.

Main statement: the written form of a placed tree is what the pen writes for its tokens
(`printAll_eq_write`).
-/

namespace Stencil

open Text

/-- Whether a token begins the body of a directive. -/
def Token.opensBody : Token → Bool
  | .openConditional _ | .elseIf _ | .otherwise | .openIterator _ _ => true
  | _ => false

/-- Where a space is written in an attribute area. -/
inductive Gap where
  /-- Before all but the end of the tag: right after the name of the tag. -/
  | always
  | beforeNode
  /-- Right after a directive that opens a body. -/
  | never

def Gap.space : Gap → Token → Text
  | .always, _ => [' ']
  | .beforeNode, t => if t.beginsNode then [' '] else []
  | .never, _ => []

/-- The space before a node. -/
def Gap.lead : Gap → Text
  | .always | .beforeNode => [' ']
  | .never => []

theorem Gap.space_of_beginsNode (gap : Gap) {t : Token} (h : t.beginsNode = true) :
    gap.space t = gap.lead := by
  cases gap <;> simp [space, lead, h]

inductive Pen where
  | content
  | area (tag : Text) (gap : Gap)
  /-- After the name of an attribute. -/
  | afterName (tag : Text)
  | value (tag : Text)
  /-- After the tag of a void element, which is written as closed. -/
  | closed

namespace Pen

def spell : Pen → Token → Text
  | .content, .text v => v
  | .content, .comment v => "<!--".toList ++ v ++ "-->".toList
  | .content, .openTag tag => '<' :: tag
  | .content, .closeTag tag => "</".toList ++ tag ++ ['>']
  | .content, t => braced t.body
  | .area tag _, .stopAttributes => if isVoid tag then " />".toList else ['>']
  | .area _ gap, .openAttribute name => gap.space (.openAttribute name) ++ name
  | .area _ gap, t => gap.space t ++ braced t.body
  | .afterName _, .closeAttribute => []
  | .afterName _, .text v => '=' :: '\x22' :: v
  | .afterName _, t => '=' :: '\x22' :: braced t.body
  | .value _, .text v => v
  | .value _, .closeAttribute => ['\x22']
  | .value _, t => braced t.body
  | .closed, _ => []

def next : Pen → Token → Pen
  | .content, .openTag tag => .area tag .always
  | .content, _ => .content
  | .area tag _, .stopAttributes => if isVoid tag then .closed else .content
  | .area tag _, .openAttribute _ => .afterName tag
  | .area tag _, t => .area tag (if t.opensBody then .never else .beforeNode)
  | .afterName tag, .closeAttribute | .value tag, .closeAttribute => .area tag .beforeNode
  | .afterName tag, _ | .value tag, _ => .value tag
  | .closed, _ => .content

end Pen

def write : Pen → List Token → Text
  | _, [] => []
  | p, t :: ts => p.spell t ++ write (p.next t) ts

/-- The pen in a zone. -/
def Zone.pen : Zone → Pen
  | .content => .content
  | .area tag => .area tag .beforeNode
  | .value tag => .value tag

/-! ## Single tokens -/

theorem write_directive {z : Zone} (hz : ∀ tag, z ≠ .area tag) {t : Token}
    (ht : t.isDirective = true) (ts : List Token) :
    write z.pen (t :: ts) = braced t.body ++ write z.pen ts := by
  cases z with
  | area tag => exact absurd rfl (hz tag)
  | _ => cases t <;> first | rfl | cases ht

theorem write_area_directive (tag : Text) (gap : Gap) {t : Token} (ht : t.isDirective = true)
    (ts : List Token) :
    write (.area tag gap) (t :: ts) =
      gap.space t ++ (braced t.body ++
        write (.area tag (if t.opensBody then .never else .beforeNode)) ts) := by
  rw [← List.append_assoc]
  cases t <;> first | rfl | cases ht

theorem write_opener (tag : Text) (gap : Gap) {t : Token} (ht : t.isDirective = true)
    (ho : t.opensBody = true) (ts : List Token) :
    write (.area tag gap) (t :: ts) =
      gap.space t ++ (braced t.body ++ write (.area tag .never) ts) := by
  rw [write_area_directive tag gap ht, if_pos ho]

theorem write_leaf (tag : Text) (gap : Gap) {t : Token} (ht : t.isDirective = true)
    (ho : t.opensBody = false) (ts : List Token) :
    write (.area tag gap) (t :: ts) =
      gap.space t ++ (braced t.body ++ write (.area tag .beforeNode) ts) := by
  rw [write_area_directive tag gap ht, if_neg (by simp [ho])]

theorem write_stopAttributes (tag : Text) (gap : Gap) (ts : List Token) :
    write (.area tag gap) (.stopAttributes :: ts) =
      (if isVoid tag then " />".toList else ['>']) ++
        write (if isVoid tag then .closed else .content) ts := rfl

theorem write_stop {tag : Text} (hv : isVoid tag = false) (gap : Gap) (ts : List Token) :
    write (.area tag gap) (.stopAttributes :: ts) = '>' :: write .content ts := by
  simp [write_stopAttributes, hv]

theorem write_stopClosed {tag : Text} (hv : isVoid tag = true) (gap : Gap) (t : Token)
    (ts : List Token) :
    write (.area tag gap) (.stopAttributes :: t :: ts) = " />".toList ++ write .content ts := by
  rw [write_stopAttributes, if_pos hv, if_pos hv]
  rfl

theorem write_openAttribute (tag : Text) (gap : Gap) (name : Text) (ts : List Token) :
    write (.area tag gap) (.openAttribute name :: ts) =
      gap.lead ++ (name ++ write (.afterName tag) ts) := by
  rw [← gap.space_of_beginsNode (t := .openAttribute name) rfl, ← List.append_assoc]
  rfl

/-- After the name, a value begins with the first token that does not close the attribute. -/
theorem write_afterName {tag : Text} {t : Token} (ht : t ≠ .closeAttribute) (ts : List Token) :
    write (.afterName tag) (t :: ts) = '=' :: '\x22' :: write (.value tag) (t :: ts) := by
  cases t <;> first | rfl | exact absurd rfl ht

/-- What begins no node is written without a space unless it follows the name of the tag. -/
theorem write_never {tag : Text} {t : Token} (ht : t.beginsNode = false) (ts : List Token) :
    write (.area tag .beforeNode) (t :: ts) = write (.area tag .never) (t :: ts) := by
  cases t <;> first | rfl | cases ht

namespace Node

/-! ## Nodes of an attribute area -/

/-- A node of an attribute area without the space before it. -/
def areaForm : Node → Text
  | .conditional test children alternate =>
    braced ("? ".toList ++ test ++ [' ']) ++ trim (printArea children) ++
      printAreaAlternate alternate ++ braced ['?']
  | .iterator iterable binder children =>
    iteratorHeader iterable binder ++ trim (printArea children) ++ braced ['~']
  | n => print n

theorem printArea_cons (n : Node) (ns : List Node) :
    printArea (n :: ns) = ' ' :: (areaForm n ++ printArea ns) := by
  cases n <;> simp [printArea, areaForm]

theorem getLast?_append_braced (u body : Text) : (u ++ braced body).getLast? = some '}' := by
  simp [braced, List.getLast?_append, List.getLast?_cons]

theorem trimmed_of_ends {u : Text} {a b : Char} (ha : u.head? = some a) (hb : u.getLast? = some b)
    (hab : Text.isBlank a = false ∧ Text.isBlank b = false) : u ≠ [] ∧ Trimmed u := by
  refine ⟨?_, fun c hc => ?_, fun c hc => ?_⟩
  · rintro rfl
    cases ha
  · rw [ha] at hc
    cases hc
    exact hab.1
  · rw [hb] at hc
    cases hc
    exact hab.2

theorem areaForm_ends {tag : Text} {n : Node} (h : Placed (.area tag) n) :
    areaForm n ≠ [] ∧ Trimmed (areaForm n) := by
  have hbraces : Text.isBlank '{' = false ∧ Text.isBlank '}' = false := by decide
  cases n with
  | text | document | foreign => exact h.elim
  | comment | element => cases h.1
  | encoded | interpolated | evaluated =>
    simp only [areaForm, print]
    exact trimmed_of_ends rfl (getLast?_append_braced [] _) hbraces
  | iterator iterable binder children =>
    rw [areaForm, iteratorHeader_eq]
    exact trimmed_of_ends rfl (getLast?_append_braced _ _) hbraces
  | conditional test children alternate =>
    rw [areaForm]
    exact trimmed_of_ends rfl (getLast?_append_braced _ _) hbraces
  | «attribute» name parts =>
    obtain ⟨⟨hne, hchars⟩, -⟩ := h
    have hname : ∀ c ∈ name, Text.isBlank c = false := fun c hc =>
      isAttributeChar_blank (hchars c hc)
    cases parts with
    | nil =>
      simp only [areaForm, print]
      exact ⟨hne, trimmed_of_forall hname⟩
    | cons part parts =>
      cases name with
      | nil => exact absurd rfl hne
      | cons c name =>
        simp only [areaForm, print]
        exact trimmed_of_ends rfl List.getLast?_concat ⟨hname c List.mem_cons_self, by decide⟩

theorem trimmed_append {a b : Text} (hane : a ≠ []) (ha : Trimmed a) (hbne : b ≠ [])
    (hb : Trimmed b) (mid : Text) : Trimmed (a ++ (mid ++ b)) := by
  constructor
  · intro c hc
    cases a with
    | nil => exact absurd rfl hane
    | cons d a => exact ha.1 c hc
  · intro c hc
    obtain ⟨d, hd⟩ := Option.isSome_iff_exists.mp (List.getLast?_isSome.mpr hbne)
    rw [← List.append_assoc, List.getLast?_append, hd, Option.some_or] at hc
    exact hb.2 c (hd ▸ hc)

theorem trimmed_areaForms {tag : Text} {n : Node} {ns : List Node}
    (h : PlacedAll (.area tag) (n :: ns)) : Trimmed (areaForm n ++ printArea ns) := by
  induction ns generalizing n with
  | nil =>
    rw [printArea, List.append_nil]
    exact (areaForm_ends h.1).2
  | cons m ns ih =>
    obtain ⟨hne, hn⟩ := areaForm_ends h.1
    have hrest : areaForm m ++ printArea ns ≠ [] := by
      simp [(areaForm_ends h.2.1).1]
    rw [printArea_cons, ← List.singleton_append]
    exact trimmed_append hne hn hrest (ih h.2) [' ']

/-- In a body the space before the first node is left out. -/
theorem trim_printArea_cons {tag : Text} {n : Node} {ns : List Node}
    (h : PlacedAll (.area tag) (n :: ns)) :
    trim (printArea (n :: ns)) = areaForm n ++ printArea ns := by
  rw [printArea_cons, ← List.singleton_append, trim_blank_append (by decide),
    trim_of_trimmed (trimmed_areaForms h)]

/-! ## The written form of a tree -/

theorem printAlternate_otherwise {ns : List Node} (h : ¬ IsElseIf ns) :
    printAlternate (some ns) = braced ['?', '?'] ++ printAll ns := by
  rw [printAlternate]
  intro test children alternate he
  exact h ⟨test, children, alternate, he⟩

theorem printAreaAlternate_otherwise {ns : List Node} (h : ¬ IsElseIf ns) :
    printAreaAlternate (some ns) = braced ['?', '?'] ++ trim (printArea ns) := by
  rw [printAreaAlternate]
  intro test children alternate he
  exact h ⟨test, children, alternate, he⟩

theorem ne_closeAttribute_of_beginsNode {t : Token} (h : t.beginsNode = true) :
    t ≠ .closeAttribute := by
  rintro rfl
  cases h

/-- What follows a body in an attribute area. -/
def BodyEnds (ts : List Token) : Prop := ∃ t us, ts = t :: us ∧ t.beginsNode = false

theorem bodyEnds_alternate (alternate : Option (List Node)) {ts : List Token} (h : BodyEnds ts) :
    BodyEnds (tokensAlternate alternate ++ ts) := by
  cases alternate with
  | none =>
    rw [tokensAlternate]
    exact h
  | some ns =>
    by_cases he : IsElseIf ns
    · obtain ⟨test, children, alternate, rfl⟩ := he
      rw [tokensAlternate]
      exact ⟨_, _, rfl, rfl⟩
    · rw [tokensAlternate_otherwise he]
      exact ⟨_, _, rfl, rfl⟩

/-- A node is written as its tokens are. -/
structure Spelled (n : Node) : Prop where
  content : ∀ {z : Zone} {ts : List Token}, (∀ tag, z ≠ .area tag) → Placed z n →
    write z.pen (n.tokens ++ ts) = print n ++ write z.pen ts
  area : ∀ {tag : Text} {ts : List Token} (gap : Gap), Placed (.area tag) n →
    write (.area tag gap) (n.tokens ++ ts) =
      gap.lead ++ (areaForm n ++ write (.area tag .beforeNode) ts)

/-- Nodes are written as their tokens are, also as the attribute area of a tag and as the body of a
directive in one. -/
structure SpelledAll (ns : List Node) : Prop where
  content : ∀ {z : Zone} {ts : List Token}, (∀ tag, z ≠ .area tag) → PlacedAll z ns →
    write z.pen (tokensAll ns ++ ts) = printAll ns ++ write z.pen ts
  area : ∀ {tag : Text} {ts : List Token}, PlacedAll (.area tag) ns →
    write (.area tag .beforeNode) (tokensAll ns ++ ts) =
      printArea ns ++ write (.area tag .beforeNode) ts
  tag : ∀ {tag : Text} {ts : List Token}, PlacedAll (.area tag) ns →
    write (.area tag .always) (tokensAll ns ++ .stopAttributes :: ts) =
      printArea ns ++ write (.area tag .beforeNode) (.stopAttributes :: ts)
  body : ∀ {tag : Text} {ts : List Token}, PlacedAll (.area tag) ns → BodyEnds ts →
    write (.area tag .never) (tokensAll ns ++ ts) =
      trim (printArea ns) ++ write (.area tag .never) ts

structure SpelledBranch (alternate : Option (List Node)) : Prop where
  content : ∀ {z : Zone} {ts : List Token}, (∀ tag, z ≠ .area tag) → PlacedBranch z alternate →
    write z.pen (tokensAlternate alternate ++ ts) = printAlternate alternate ++ write z.pen ts
  area : ∀ {tag : Text} {ts : List Token}, PlacedBranch (.area tag) alternate → BodyEnds ts →
    write (.area tag .never) (tokensAlternate alternate ++ ts) =
      printAreaAlternate alternate ++ write (.area tag .never) ts

theorem Spelled.text (v : Text) : Spelled (.text v) where
  content {z _} hz _ := by
    rw [tokens, print]
    cases z with
    | area tag => exact absurd rfl (hz tag)
    | _ => rfl
  area _ h := h.elim

theorem Spelled.comment (v : Text) : Spelled (.comment v) where
  content hz h := by
    obtain ⟨rfl, -⟩ := h
    rw [tokens, print]
    rfl
  area _ h := by cases h.1

/-- A directive without a body. -/
theorem Spelled.leaf {n : Node} {t : Token} (htokens : n.tokens = [t])
    (hprint : print n = braced t.body) (harea : areaForm n = print n) (hd : t.isDirective = true)
    (ho : t.opensBody = false) (hn : t.beginsNode = true) : Spelled n where
  content {z ts} hz _ := by
    rw [htokens, hprint]
    exact write_directive hz hd ts
  area {tag ts} gap _ := by
    rw [htokens, harea, hprint, ← gap.space_of_beginsNode hn]
    exact write_leaf tag gap hd ho ts

theorem Spelled.attribute {parts : List Node} (hparts : SpelledAll parts) (name : Text) :
    Spelled (.attribute name parts) where
  content {z _} hz h := by
    cases z with
    | area tag => exact absurd rfl (hz tag)
    | content | value => exact h.elim
  area {tag ts} gap h := by
    rw [Placed] at h
    rw [tokens, List.cons_append, List.append_assoc, write_openAttribute]
    obtain ⟨-, rfl | hp⟩ := h
    · simp only [areaForm, print, printAll, tokensAll, tokens, List.append_assoc]
      rfl
    · cases parts with
      | nil =>
        simp only [areaForm, print]
        rfl
      | cons part parts =>
        have hvalue : write (.value tag) (tokensAll (part :: parts) ++ .closeAttribute :: ts) =
            printAll (part :: parts) ++ ('\x22' :: write (.area tag .beforeNode) ts) :=
          hparts.content (z := .value tag) (fun _ he => by cases he) hp
        obtain ⟨t, us, he, ht⟩ := (linear_tokens hp.1).head
        have hquote : write (.afterName tag) (tokensAll (part :: parts) ++ .closeAttribute :: ts) =
            '=' :: '\x22' :: write (.value tag)
              (tokensAll (part :: parts) ++ .closeAttribute :: ts) := by
          rw [tokensAll, he]
          exact write_afterName (ne_closeAttribute_of_beginsNode ht) _
        rw [List.singleton_append, hquote, hvalue]
        simp [areaForm, print, printAll]

theorem Spelled.element {attributes children : List Node} (tag : Text)
    (hattributes : SpelledAll attributes) (hchildren : SpelledAll children) :
    Spelled (.element tag attributes children) where
  content {_ ts} hz h := by
    rw [Placed] at h
    obtain ⟨rfl, htag, ha, hc, hvoid⟩ := h
    simp only [tokens, print, List.cons_append, List.append_assoc]
    show '<' :: (tag ++ write (.area tag .always) _) = _
    rw [hattributes.tag ha]
    cases hv : isVoid tag with
    | true =>
      rw [hvoid hv, tokensAll, List.nil_append, write_stopClosed hv]
      simp [Zone.pen]
    | false =>
      have hbody : write .content (tokensAll children ++ .closeTag tag :: ts) =
          printAll children ++ ("</".toList ++ tag ++ ['>'] ++ write .content ts) :=
        hchildren.content hz hc
      rw [write_stop hv, List.nil_append, hbody]
      simp [Zone.pen]
  area _ h := by cases h.1

theorem Spelled.iterator {children : List Node} (hchildren : SpelledAll children) (iterable : Text)
    (binder : Binder) : Spelled (.iterator iterable binder children) where
  content hz h := by
    rw [Placed] at h
    simp only [tokens, print, iteratorHeader_eq, List.cons_append, List.append_assoc]
    rw [write_directive hz rfl, hchildren.content hz h.2, List.nil_append, write_directive hz rfl]
    rfl
  area {tag _} gap h := by
    rw [Placed] at h
    simp only [tokens, areaForm, iteratorHeader_eq, List.cons_append, List.append_assoc]
    rw [write_opener tag gap rfl rfl, gap.space_of_beginsNode rfl,
      hchildren.body h.2 ⟨_, _, rfl, rfl⟩, List.nil_append, write_leaf tag .never rfl rfl]
    rfl

theorem Spelled.conditional {children : List Node} {alternate : Option (List Node)}
    (hchildren : SpelledAll children) (halternate : SpelledBranch alternate) (test : Text) :
    Spelled (.conditional test children alternate) where
  content hz h := by
    rw [Placed] at h
    simp only [tokens, print, List.cons_append, List.append_assoc]
    rw [write_directive hz rfl, hchildren.content hz h.2.1, halternate.content hz h.2.2,
      List.nil_append, write_directive hz rfl]
    rfl
  area {tag ts} gap h := by
    rw [Placed] at h
    simp only [tokens, areaForm, List.cons_append, List.append_assoc, List.nil_append]
    have hends : BodyEnds (.closeConditional :: ts) := ⟨_, _, rfl, rfl⟩
    rw [write_opener tag gap rfl rfl, gap.space_of_beginsNode rfl,
      hchildren.body h.2.1 (bodyEnds_alternate alternate hends), halternate.area h.2.2 hends,
      write_leaf tag .never rfl rfl]
    rfl

theorem SpelledAll.nil : SpelledAll [] := by
  constructor
  all_goals
    intros
    simp only [tokensAll, printAll, printArea]
    rfl

theorem SpelledAll.cons {n : Node} {ns : List Node} (hn : Spelled n) (hns : SpelledAll ns) :
    SpelledAll (n :: ns) where
  content hz h := by
    rw [PlacedAll] at h
    rw [tokensAll, printAll, List.append_assoc, List.append_assoc, hn.content hz h.1,
      hns.content hz h.2]
  area h := by
    rw [PlacedAll] at h
    rw [tokensAll, List.append_assoc, hn.area .beforeNode h.1, hns.area h.2, printArea_cons,
      List.cons_append, List.append_assoc]
    rfl
  tag h := by
    rw [PlacedAll] at h
    rw [tokensAll, List.append_assoc, hn.area .always h.1, hns.area h.2, printArea_cons,
      List.cons_append, List.append_assoc]
    rfl
  body h hts := by
    obtain ⟨t, us, rfl, ht⟩ := hts
    rw [tokensAll, List.append_assoc, hn.area .never h.1, hns.area h.2, trim_printArea_cons h,
      write_never ht, List.append_assoc]
    rfl

theorem SpelledBranch.absent : SpelledBranch none where
  content _ _ := by
    rw [tokensAlternate, printAlternate]
    rfl
  area _ _ := by
    rw [tokensAlternate, printAreaAlternate]
    rfl

theorem SpelledBranch.elseIf {children : List Node} {alternate : Option (List Node)}
    (hchildren : SpelledAll children) (halternate : SpelledBranch alternate) (test : Text) :
    SpelledBranch (some [.conditional test children alternate]) where
  content hz h := by
    rw [PlacedBranch, PlacedAll, Placed] at h
    rw [tokensAlternate, printAlternate]
    simp only [List.cons_append, List.append_assoc]
    rw [write_directive hz rfl, hchildren.content hz h.1.2.1, halternate.content hz h.1.2.2]
    rfl
  area {tag _} h hts := by
    rw [PlacedBranch, PlacedAll, Placed] at h
    rw [tokensAlternate, printAreaAlternate]
    simp only [List.cons_append, List.append_assoc]
    rw [write_opener tag .never rfl rfl, hchildren.body h.1.2.1 (bodyEnds_alternate alternate hts),
      halternate.area h.1.2.2 hts]
    rfl

theorem SpelledBranch.otherwise {ns : List Node} (he : ¬ IsElseIf ns) (hns : SpelledAll ns) :
    SpelledBranch (some ns) where
  content hz h := by
    rw [tokensAlternate_otherwise he, printAlternate_otherwise he, List.cons_append,
      List.append_assoc, write_directive hz rfl, hns.content hz h]
    rfl
  area {tag _} h hts := by
    rw [tokensAlternate_otherwise he, printAreaAlternate_otherwise he, List.cons_append,
      List.append_assoc, write_opener tag .never rfl rfl, hns.body h hts]
    rfl

theorem spelled_tree :
    (∀ n, Spelled n) ∧ (∀ ns, SpelledAll ns) ∧ ∀ alternate, SpelledBranch alternate := by
  apply tree_induction
  case text => exact .text
  case comment => exact .comment
  case encoded | interpolated | evaluated =>
    intro source
    refine Spelled.leaf (by rw [tokens]) ?_ rfl rfl rfl rfl
    rw [print]
    rfl
  case «attribute» => exact fun name _ hparts => .attribute hparts name
  case element => exact fun tag _ _ ha hc => .element tag ha hc
  case iterator => exact fun iterable binder _ hc => .iterator hc iterable binder
  case conditional => exact fun test _ _ hc ha => .conditional hc ha test
  case document => exact fun _ => ⟨fun _ h => h.elim, fun _ h => h.elim⟩
  case foreign => exact ⟨fun _ h => h.elim, fun _ h => h.elim⟩
  case nil => exact .nil
  case cons => exact fun _ _ hn hns => .cons hn hns
  case absent => exact .absent
  case elseIf => exact fun test _ _ hc ha => .elseIf hc ha test
  case otherwise => exact fun _ he hns => .otherwise he hns

theorem printAll_eq_write {d : Document} (h : PlacedAll .content d) :
    printAll d = write .content (tokensAll d) := by
  have hw : write .content (tokensAll d ++ []) = printAll d ++ write .content [] :=
    (spelled_tree.2.1 d).content (z := .content) nofun h
  rw [List.append_nil, write, List.append_nil] at hw
  exact hw.symm

end Node

end Stencil
