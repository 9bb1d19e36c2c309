import Stencil.Proofs.Lower.Expansion

/-!
# Missing lists in attribute values

An iteration over a list that is missing puts nothing out in content. In an attribute value the code
that is written for it is undefined, and the template literal around it makes a string of that. So
the value is the expansion of the parts with `undefined` in place of each missing list, and it is
the value for empty lists if and only if no missing list is met (`missing_list_text_iff`).
-/

namespace Stencil

variable {Env Value Setting : Type}

/-- The interpretation in which missing lists are empty. -/
def Interpretation.emptied (I : Interpretation Env Value Setting) (missing : Env → Text → Bool) :
    Interpretation Env Value Setting :=
  { I with list := fun env iterable => if missing env iterable then [] else I.list env iterable }

namespace Node

section Expansion

variable (I : Interpretation Env Value Setting) (toText : Value → Text)
  (missing : Env → Text → Bool)

/-! ## Expansion with gaps -/

mutual

/-- The text that a part expands to, with `gap` for each list that is missing. -/
def fill (gap : Text) (env : Env) : Node → Text
  | .text value => value
  | .encoded source | .interpolated source => toText (I.value env source)
  | .conditional test children alternate =>
    if I.holds env test then fillAll gap env children else fillBranch gap env alternate
  | .iterator iterable binder children =>
    if missing env iterable then gap
    else (I.list env iterable).zipIdx.flatMap fun (value, i) =>
      fillAll gap (I.enter env binder value i) children
  | .comment _ | .evaluated _ | .attribute .. | .element .. | .document _ | .foreign => []

def fillAll (gap : Text) (env : Env) : List Node → Text
  | [] => []
  | n :: ns => n.fill gap env ++ fillAll gap env ns

def fillBranch (gap : Text) (env : Env) : Option (List Node) → Text
  | none => []
  | some ns => fillAll gap env ns

end

mutual

/-- How many times a missing list is met. -/
def gaps (env : Env) : Node → Nat
  | .conditional test children alternate =>
    if I.holds env test then gapsAll env children else gapsBranch env alternate
  | .iterator iterable binder children =>
    if missing env iterable then 1
    else (I.list env iterable).zipIdx.foldr
      (fun (value, i) n => gapsAll (I.enter env binder value i) children + n) 0
  | .text _ | .encoded _ | .interpolated _ | .comment _ | .evaluated _ | .attribute ..
  | .element .. | .document _ | .foreign => 0

def gapsAll (env : Env) : List Node → Nat
  | [] => 0
  | n :: ns => n.gaps env + gapsAll env ns

def gapsBranch (env : Env) : Option (List Node) → Nat
  | none => 0
  | some ns => gapsAll env ns

end

end Expansion

/-- `t` is `u` with `gap` put in `n` times. -/
structure Grows (gap t u : Text) (n : Nat) : Prop where
  length : t.length = u.length + gap.length * n
  eq : n = 0 → t = u

namespace Grows

variable {gap t u v w : Text} {m n : Nat}

theorem refl (gap t : Text) : Grows gap t t 0 := ⟨by rw [Nat.mul_zero, Nat.add_zero], fun _ => rfl⟩

theorem single (gap : Text) : Grows gap gap [] 1 := ⟨by simp, nofun⟩

theorem append (htu : Grows gap t u m) (hvw : Grows gap v w n) :
    Grows gap (t ++ v) (u ++ w) (m + n) where
  length := by
    rw [List.length_append, List.length_append, htu.length, hvw.length, Nat.mul_add]
    omega
  eq h := by rw [htu.eq (by omega), hvw.eq (by omega)]

theorem flatMap {α : Type} {f g : α → Text} {k : α → Nat} (h : ∀ x, Grows gap (f x) (g x) (k x))
    (xs : List α) : Grows gap (xs.flatMap f) (xs.flatMap g) (xs.foldr (fun x n => k x + n) 0) := by
  induction xs with
  | nil => exact refl gap []
  | cons x xs ih => exact append (h x) ih

theorem eq_iff (h : Grows gap t u n) (hgap : gap ≠ []) : t = u ↔ n = 0 := by
  refine ⟨fun heq => ?_, h.eq⟩
  have hlength := h.length
  rw [heq] at hlength
  have hmul : gap.length * n = 0 := by omega
  exact (Nat.mul_eq_zero.mp hmul).resolve_left (mt List.length_eq_zero_iff.mp hgap)

end Grows

section Expansion

variable (I : Interpretation Env Value Setting) (toText : Value → Text)
  (missing : Env → Text → Bool)

mutual

theorem fill_grows (gap : Text) (env : Env) : ∀ n : Node,
    Grows gap (n.fill I toText missing gap env) (n.expand (I.emptied missing) toText env)
      (n.gaps I missing env)
  | .conditional test children alternate => by
    rw [fill, expand, gaps]
    show Grows gap _ (if I.holds env test then _ else _) _
    split
    · exact fillAll_grows gap env children
    · exact fillBranch_grows gap env alternate
  | .iterator iterable binder children => by
    rw [fill, expand, gaps]
    show Grows gap _ ((if missing env iterable then [] else I.list env iterable).zipIdx.flatMap _) _
    split
    · exact Grows.single gap
    · exact Grows.flatMap (fun (value, i) =>
        fillAll_grows gap (I.enter env binder value i) children) _
  | .text _ | .encoded _ | .interpolated _ | .comment _ | .evaluated _ | .attribute ..
  | .element .. | .document _ | .foreign => Grows.refl gap _

theorem fillAll_grows (gap : Text) (env : Env) : ∀ ns : List Node,
    Grows gap (fillAll I toText missing gap env ns) (expandAll (I.emptied missing) toText env ns)
      (gapsAll I missing env ns)
  | [] => Grows.refl gap []
  | n :: ns => (fill_grows gap env n).append (fillAll_grows gap env ns)

theorem fillBranch_grows (gap : Text) (env : Env) : ∀ ns : Option (List Node),
    Grows gap (fillBranch I toText missing gap env ns)
      (expandBranch (I.emptied missing) toText env ns) (gapsBranch I missing env ns)
  | none => Grows.refl gap []
  | some ns => fillAll_grows gap env ns

end

mutual

/-- Where no list is missing, there are no gaps. -/
theorem fill_never (gap : Text) (env : Env) : ∀ n : Node,
    n.fill I toText (fun _ _ => false) gap env = n.expand I toText env
  | .conditional test children alternate => by
    rw [fill, expand, fillAll_never gap env children, fillBranch_never gap env alternate]
  | .iterator iterable binder children => by
    rw [fill, expand, if_neg Bool.false_ne_true]
    simp only [fillAll_never gap _ children]
  | .text _ | .encoded _ | .interpolated _ | .comment _ | .evaluated _ | .attribute ..
  | .element .. | .document _ | .foreign => rfl

theorem fillAll_never (gap : Text) (env : Env) : ∀ ns : List Node,
    fillAll I toText (fun _ _ => false) gap env ns = expandAll I toText env ns
  | [] => rfl
  | n :: ns => by rw [fillAll, expandAll, fill_never gap env n, fillAll_never gap env ns]

theorem fillBranch_never (gap : Text) (env : Env) : ∀ ns : Option (List Node),
    fillBranch I toText (fun _ _ => false) gap env ns = expandBranch I toText env ns
  | none => rfl
  | some ns => fillAll_never gap env ns

end

end Expansion

/-! ## Parts of values -/

/-- The text that nodes begin with. Comments are left out. -/
def leadingText : List Node → Text
  | .text t :: ns => t ++ leadingText ns
  | .comment _ :: ns => leadingText ns
  | _ => []

/-- The node and those after it do not make a dollar sign before a brace of two texts. -/
def Unopened : Node → List Node → Prop
  | .text t, ns => t.getLast? = some '$' → (leadingText ns).head? ≠ some '{'
  | _, _ => True

mutual

/-- Text, a comment, an expression, or a conditional or an iteration of such parts. -/
def IsValuePart : Node → Prop
  | .text _ | .comment _ | .encoded _ | .interpolated _ => True
  | .conditional _ children alternate => AreValueParts children ∧ IsValueBranch alternate
  | .iterator _ _ children => AreValueParts children
  | .evaluated _ | .attribute .. | .element .. | .document _ | .foreign => False

def AreValueParts : List Node → Prop
  | [] => True
  | n :: ns => n.IsValuePart ∧ Unopened n ns ∧ AreValueParts ns

def IsValueBranch : Option (List Node) → Prop
  | none => True
  | some ns => AreValueParts ns

end

end Node

namespace Lower

open Node Jsx
open Stencil.Jsx.Symbol

variable {room : Nat}

/-! ## Template literals -/

section

variable (Env Value Setting : Type)

/-- The segments of a part: what is written for them is read as their pieces, and these give the
expansion of the part with `undefined` for each list that is missing. -/
structure Fills (n : Node) (ss : List Segment) : Prop where
  reads {us rest : List Symbol} {qs : List Piece} :
    (∀ t, n = .text t → t.getLast? = some '$' → us.head? ≠ some (.char '{')) →
      Reads readPieces us qs rest →
        Reads readPieces (Segment.symbolsAll ss ++ us) (Segment.piecesAll ss ++ qs) rest
  /-- A brace at the front is the one of a text, or it comes later. -/
  leads {us : List Symbol} : (Segment.symbolsAll ss ++ us).head? = some (.char '{') →
    (∀ ns, (leadingText (n :: ns)).head? = some '{') ∨
      us.head? = some (.char '{') ∧ ∀ ns, leadingText (n :: ns) = leadingText ns
  text (I : Interpretation Env Value Setting) (toText : Value → Text) (missing : Env → Text → Bool)
    (env : Env) : Piece.textAll I toText missing env (Segment.piecesAll ss) =
      n.fill I toText missing "undefined".toList env

/-- The segments of parts. -/
structure FillsAll (ns : List Node) (ss : List Segment) : Prop where
  reads (rest : List Symbol) : Reads readPieces (Segment.symbolsAll ss ++ .char '\x60' :: rest)
    (Segment.piecesAll ss) rest
  leads (rest : List Symbol) :
    (Segment.symbolsAll ss ++ .char '\x60' :: rest).head? = some (.char '{') →
      (leadingText ns).head? = some '{'
  text (I : Interpretation Env Value Setting) (toText : Value → Text) (missing : Env → Text → Bool)
    (env : Env) : Piece.textAll I toText missing env (Segment.piecesAll ss) =
      fillAll I toText missing "undefined".toList env ns

end

variable {Env Value Setting : Type}

theorem FillsAll.nil : FillsAll Env Value Setting [] [] :=
  ⟨fun _ => reads_pieces_end, nofun, fun _ _ _ _ => rfl⟩

theorem FillsAll.cons {n : Node} {ns : List Node} {ss ts : List Segment}
    (hn : Fills Env Value Setting n ss) (hns : FillsAll Env Value Setting ns ts)
    (hopen : Unopened n ns) : FillsAll Env Value Setting (n :: ns) (ss ++ ts) where
  reads rest := by
    rw [Segment.symbolsAll_append, Segment.piecesAll_append, List.append_assoc]
    refine hn.reads ?_ (hns.reads rest)
    rintro t rfl ht hhead
    exact hopen ht (hns.leads rest hhead)
  leads rest hhead := by
    rw [Segment.symbolsAll_append, List.append_assoc] at hhead
    rcases hn.leads hhead with h | ⟨h, hskip⟩
    · exact h ns
    · rw [hskip]
      exact hns.leads rest h
  text I toText missing env := by
    rw [Segment.piecesAll_append, Piece.textAll_append, hn.text, hns.text, fillAll]

theorem fills_text (t : Text) : Fills Env Value Setting (.text t) [.text t] where
  reads ht h := by
    rw [Segment.symbolsAll, Segment.symbolsAll, Segment.symbols, List.append_nil,
      Segment.piecesAll, Segment.piecesAll, Segment.pieces, List.append_nil]
    exact reads_pieces_text (ht t rfl) h
  leads {us} hhead := by
    rw [Segment.symbolsAll, Segment.symbolsAll, Segment.symbols, List.append_nil] at hhead
    cases t with
    | nil => exact .inr ⟨hhead, fun _ => rfl⟩
    | cons c t =>
      rw [brace_of_head?_escaped hhead]
      exact .inl fun ns => rfl
  text I toText missing env := by
    rw [Segment.piecesAll, Segment.piecesAll, Segment.pieces, List.append_nil, Piece.textAll_chars]
    rfl

theorem fills_comment (t : Text) : Fills Env Value Setting (.comment t) [] :=
  ⟨fun _ h => h, fun h => .inr ⟨h, fun _ => rfl⟩, fun _ _ _ _ => rfl⟩

/-- A part that is written as an insertion. -/
theorem fills_insertion {n : Node} {s : Segment} {x : Code} {xs : List Symbol}
    (hsymbols : s.symbols = insertion xs) (hpieces : s.pieces = [.inserted x])
    (hx : ∀ us, Reads readCode (xs ++ .char '}' :: us) x (.char '}' :: us))
    (htext : ∀ (I : Interpretation Env Value Setting) toText missing env,
      (x.run I toText missing env).inserted toText =
        n.fill I toText missing "undefined".toList env) :
    Fills Env Value Setting n [s] where
  reads {us} _ _ _ h := by
    rw [Segment.symbolsAll, Segment.symbolsAll, hsymbols, List.append_nil, Segment.piecesAll,
      Segment.piecesAll, hpieces, List.append_nil]
    exact reads_pieces_insertion (hx us) h
  leads hhead := by
    -- The first character is a dollar sign.
    rw [Segment.symbolsAll, Segment.symbolsAll, hsymbols, List.append_nil,
      insertion_append] at hhead
    cases hhead
  text I toText missing env := by
    rw [Segment.piecesAll, Segment.piecesAll, hpieces, List.append_nil, Piece.textAll,
      Piece.textAll, Piece.text, htext, List.append_nil]

theorem fills_source {n : Node} {code : Text}
    (htext : ∀ (I : Interpretation Env Value Setting) toText missing env,
      n.fill I toText missing "undefined".toList env = toText (I.value env code)) :
    Fills Env Value Setting n [.hole code] :=
  fills_insertion rfl rfl (fun us => reads_code_source (ends_char (by decide) (by decide) us))
    fun I toText missing env => (htext I toText missing env).symm

variable (Env Value Setting)

mutual

theorem segmentsOf_fills : ∀ (n : Node) {room : Nat}, n.IsValuePart → fits room n = true →
    ∃ ss, segmentsOf room n = .ok ss ∧ Fills Env Value Setting n ss
  | .text t, _, _, _ => ⟨_, rfl, fills_text t⟩
  | .comment t, _, _, _ => ⟨_, rfl, fills_comment t⟩
  | .encoded _, _, _, _ | .interpolated _, _, _, _ => ⟨_, rfl, fills_source fun _ _ _ _ => rfl⟩
  | .conditional test yes no, room, hn, hfit => by
    cases room with
    | zero => cases hfit
    | succ room =>
      rw [fits, Bool.and_eq_true] at hfit
      obtain ⟨ys, hys, hyes⟩ := segments_fill yes hn.1 hfit.1
      obtain ⟨ns, hns, hno, htext⟩ := branchSegments_fill no hn.2 hfit.2
      refine ⟨[.choice test ys ns], ?_,
        fills_insertion rfl rfl (fun us => ?_) fun I toText missing env => ?_⟩
      · rw [segmentsOf, hns, hys]
        rfl
      · exact reads_code_choice test (reads_code_template (hyes.reads _))
          (reads_code_template (hno _))
      · rw [Code.run, fill]
        split
        · exact hyes.text I toText missing env
        · exact htext I toText missing env
  | .iterator iterable binder body, room, hn, hfit => by
    cases room with
    | zero => cases hfit
    | succ room =>
      obtain ⟨ss, hss, hbody⟩ := segments_fill body hn hfit
      refine ⟨[.each iterable (params binder) ss], ?_,
        fills_insertion rfl rfl (fun us => ?_) fun I toText missing env => ?_⟩
      · rw [segmentsOf, hss]
        rfl
      · exact reads_code_joinedMap iterable (params binder) (reads_code_template (hbody.reads _))
      · have hitem (p : Value × Nat) :
            ((Code.template (Segment.piecesAll ss)).run I toText missing
              (I.call env (params binder) [p.1, I.index p.2])).joined toText =
              fillAll I toText missing "undefined".toList (I.enter env binder p.1 p.2) body := by
          rw [I.call_params, Code.run, hbody.text]
          rfl
        rw [Code.run, fill]
        split
        · rfl
        · exact congrArg (fun f => (I.list env iterable).zipIdx.flatMap f) (funext hitem)
  | .evaluated _, _, hn, _ | .attribute .., _, hn, _ | .element .., _, hn, _
  | .document _, _, hn, _ | .foreign, _, hn, _ => hn.elim

theorem segments_fill : ∀ (ns : List Node) {room : Nat}, AreValueParts ns →
    allFit room ns = true → ∃ ss, segments room ns = .ok ss ∧ FillsAll Env Value Setting ns ss
  | [], _, _, _ => ⟨[], rfl, .nil⟩
  | n :: ns, _, hns, hfit => by
    rw [allFit, Bool.and_eq_true] at hfit
    obtain ⟨ss, hss, hfirst⟩ := segmentsOf_fills n hns.1 hfit.1
    obtain ⟨ts, hts, hrest⟩ := segments_fill ns hns.2.2 hfit.2
    refine ⟨ss ++ ts, ?_, .cons hfirst hrest hns.2.1⟩
    rw [segments, hss, hts]
    rfl

theorem branchSegments_fill : ∀ (ns : Option (List Node)) {room : Nat}, IsValueBranch ns →
    branchFits room ns = true → ∃ ss, branchSegments room ns = .ok ss ∧
      (∀ rest, Reads readPieces (Segment.symbolsAll ss ++ .char '\x60' :: rest)
        (Segment.piecesAll ss) rest) ∧
      ∀ (I : Interpretation Env Value Setting) toText missing env,
        Piece.textAll I toText missing env (Segment.piecesAll ss) =
          fillBranch I toText missing "undefined".toList env ns
  | none, _, _, _ => ⟨[], rfl, fun _ => reads_pieces_end, fun _ _ _ _ => rfl⟩
  | some ns, _, hns, hfit => by
    obtain ⟨ss, hss, hfill⟩ := segments_fill ns hns hfit
    exact ⟨ss, hss, hfill.reads, hfill.text⟩

end

/-! ## Values -/

variable {Env Value Setting}

/-- The template literal of parts, read back and run. Its text is the expansion with `undefined` in
place of each missing list that is met, nine letters for each; with empty lists in their place it is
the plain expansion. Both are the same if and only if no missing list is met. -/
theorem missing_list_text_iff (I : Interpretation Env Value Setting) (toText : Value → Text)
    (missing : Env → Text → Bool) {parts : List Node} (hparts : AreValueParts parts)
    (hfit : allFit room parts = true) :
    ∃ ss x, segments room parts = .ok ss ∧
      Jsx.literal ss = spell (backquotes (Segment.symbolsAll ss)) ∧
      Code.read (backquotes (Segment.symbolsAll ss)) = some x ∧ ∀ env,
        x.run I toText missing env =
          .text (fillAll I toText missing "undefined".toList env parts) ∧
        x.run (I.emptied missing) toText (fun _ _ => false) env =
          .text (expandAll (I.emptied missing) toText env parts) ∧
        (fillAll I toText missing "undefined".toList env parts).length =
          (expandAll (I.emptied missing) toText env parts).length +
            9 * gapsAll I missing env parts ∧
        (x.run I toText missing env = x.run (I.emptied missing) toText (fun _ _ => false) env ↔
          gapsAll I missing env parts = 0) := by
  obtain ⟨ss, hss, hfill⟩ := segments_fill Env Value Setting parts hparts hfit
  have hread := reads_code_template (hfill.reads [])
  rw [List.append_nil] at hread
  refine ⟨ss, .template (Segment.piecesAll ss), hss, ?_, read_of_reads hread, fun env => ?_⟩
  · rw [spell_backquotes, Segment.spell_symbolsAll, Jsx.literal]
  · have hgrows := fillAll_grows I toText missing "undefined".toList env parts
    have hrun : (Code.template (Segment.piecesAll ss)).run I toText missing env =
        .text (fillAll I toText missing "undefined".toList env parts) :=
      congrArg Computed.text (hfill.text I toText missing env)
    have hempty : (Code.template (Segment.piecesAll ss)).run (I.emptied missing) toText
        (fun _ _ => false) env = .text (expandAll (I.emptied missing) toText env parts) := by
      rw [← fillAll_never (I.emptied missing) toText "undefined".toList env parts]
      exact congrArg Computed.text (hfill.text (I.emptied missing) toText _ env)
    refine ⟨hrun, hempty, hgrows.length, ?_⟩
    rw [hrun, hempty, Computed.text.injEq]
    exact hgrows.eq_iff (List.cons_ne_nil _ _)

/-- A list within a list, under a condition. -/
def menu : List Node :=
  [.text "a".toList,
    .conditional "open".toList
      [.iterator "rows".toList ⟨"r".toList, none⟩
        [.text " $".toList, .encoded "r".toList,
          .iterator "tags".toList ⟨"t".toList, none⟩ [.text "\x7b".toList, .encoded "t".toList]]]
      none]

theorem missing_list_text_menu :
    ∃ ss x, segments 3 menu = .ok ss ∧
      Jsx.literal ss = spell (backquotes (Segment.symbolsAll ss)) ∧
      Code.read (backquotes (Segment.symbolsAll ss)) = some x ∧
      x.run bindings id (fun env iterable => (env.lookup iterable).isNone)
          [("open".toList, []), ("rows".toList, "x,y".toList)] =
        .text "a $xundefined $yundefined".toList ∧
      x.run (bindings.emptied fun env iterable => (env.lookup iterable).isNone) id
          (fun _ _ => false) [("open".toList, []), ("rows".toList, "x,y".toList)] =
        .text "a $x $y".toList := by
  have hparts : AreValueParts menu := by
    refine ⟨trivial, fun h => absurd h (by decide), ⟨⟨?_, trivial, trivial⟩, trivial⟩, trivial,
      trivial⟩
    refine ⟨trivial, fun _ => by decide, trivial, trivial, ?_, trivial, trivial⟩
    exact ⟨trivial, fun h => absurd h (by decide), trivial, trivial, trivial⟩
  have hfit : allFit 3 menu = true := rfl
  obtain ⟨ss, x, hss, hspell, hread, hrun⟩ := missing_list_text_iff bindings id
    (fun env iterable => (env.lookup iterable).isNone) hparts hfit
  obtain ⟨hmissing, hempty, -, -⟩ := hrun [("open".toList, []), ("rows".toList, "x,y".toList)]
  refine ⟨ss, x, hss, hspell, hread, ?_, ?_⟩
  · rw [hmissing]
    exact congrArg Computed.text (by decide)
  · rw [hempty]
    exact congrArg Computed.text (by decide)

end Lower

end Stencil
