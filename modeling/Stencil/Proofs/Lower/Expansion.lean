import Stencil.Proofs.Jsx.Meaning
import Stencil.Proofs.Lower.Output

/-!
# Attribute values keep their meaning

The parts of an attribute value expand to a text: literal text stands for itself, an expression for
its value as a string, a conditional for the expansion of one of its branches, and an iteration for
the expansions of its body one after another. What is written for the parts, as an attribute of an
element or as a property of an object, means that text again (`written_value_expands`).
-/

namespace Stencil

variable {Env Value Setting : Type} (I : Interpretation Env Value Setting) (toText : Value → Text)

namespace Node

/-! ## Expansion -/

mutual

/-- The text that a part of an attribute value expands to. -/
def expand (env : Env) : Node → Text
  | .text value => value
  | .encoded source | .interpolated source => toText (I.value env source)
  | .conditional test children alternate =>
    if I.holds env test then expandAll env children else expandBranch env alternate
  | .iterator iterable binder children =>
    (I.list env iterable).zipIdx.flatMap fun (value, i) =>
      expandAll (I.enter env binder value i) children
  | .comment _ | .evaluated _ | .attribute .. | .element .. | .document _ | .foreign => []

def expandAll (env : Env) : List Node → Text
  | [] => []
  | n :: ns => n.expand env ++ expandAll env ns

/-- A missing branch expands to nothing. -/
def expandBranch (env : Env) : Option (List Node) → Text
  | none => []
  | some ns => expandAll env ns

end

theorem expandAll_texts {ns : List Node} (h : ns.all Node.isText = true) (env : Env) :
    expandAll I toText env ns = literalText ns := by
  induction ns with
  | nil => rfl
  | cons n ns ih =>
    rw [List.all_cons, Bool.and_eq_true] at h
    rw [expandAll, ih h.2]
    cases n with
    | text value => rfl
    | _ => cases h.1

/-! ## Parts of values -/

/-- Not both a text and before a text. -/
def Parted (n : Node) (ns : List Node) : Prop := (n.isText && ns.head?.any Node.isText) = false

mutual

/-- Text, an expression, or a conditional or an iteration of such parts. No text stands next to
another. -/
def IsPart : Node → Prop
  | .text _ | .encoded _ | .interpolated _ => True
  | .conditional _ children alternate => AreParts children ∧ IsBranch alternate
  | .iterator _ _ children => AreParts children
  | .comment _ | .evaluated _ | .attribute .. | .element .. | .document _ | .foreign => False

def AreParts : List Node → Prop
  | [] => True
  | n :: ns => n.IsPart ∧ Parted n ns ∧ AreParts ns

def IsBranch : Option (List Node) → Prop
  | none => True
  | some ns => AreParts ns

end

end Node

namespace Lower

open Node Jsx

variable {I toText} {room : Nat}

/-! ## Template literals -/

theorem apart_of_isText {s r : Segment} (h : s.isText = true → r.isText = false) :
    s.Apart r := by
  cases s with
  | text t =>
    cases r with
    | text u => cases h rfl
    | hole | choice | each => trivial
  | hole | choice | each => trivial

variable (I toText)

/-- The segment of a part: it can be read back, and gives the expansion of the part. -/
structure Stands (s : Segment) (n : Node) : Prop where
  sound : s.Sound
  isText : s.isText = n.isText
  eval (env : Env) : s.eval I toText env = n.expand I toText env

/-- The segments of parts. -/
structure StandAll (ss : List Segment) (ns : List Node) : Prop where
  sound : Segment.SoundAll ss
  head : ss.head?.map Segment.isText = ns.head?.map Node.isText
  eval (env : Env) : Segment.evalAll I toText env ss = expandAll I toText env ns

variable {I toText}

theorem StandAll.nil : StandAll I toText [] [] := ⟨trivial, rfl, fun _ => rfl⟩

theorem StandAll.cons {s : Segment} {ss : List Segment} {n : Node} {ns : List Node}
    (hs : Stands I toText s n) (hss : StandAll I toText ss ns) (hn : Parted n ns) :
    StandAll I toText (s :: ss) (n :: ns) := by
  refine ⟨⟨hs.sound, fun r hr => apart_of_isText fun htext => ?_, hss.sound⟩, ?_, fun env => ?_⟩
  · have hhead := hss.head
    rw [Option.mem_def.mp hr] at hhead
    obtain ⟨m, hm, hmr⟩ := Option.map_eq_some_iff.mp hhead.symm
    rw [Parted, hm, ← hs.isText, htext] at hn
    rw [← hmr]
    exact hn
  · exact congrArg some hs.isText
  · rw [Segment.evalAll, expandAll, hs.eval, hss.eval]

section

variable (I toText)

mutual

theorem segmentsOf_stands : ∀ (n : Node) {room : Nat}, n.IsPart → fits room n = true →
    ∃ s, segmentsOf room n = .ok [s] ∧ Stands I toText s n
  | .text value, _, _, _ => ⟨.text value, rfl, trivial, rfl, fun _ => rfl⟩
  | .encoded code, _, _, _ | .interpolated code, _, _, _ =>
    ⟨.hole code, rfl, trivial, rfl, fun _ => rfl⟩
  | .conditional test yes no, room, hn, hfit => by
    cases room with
    | zero => cases hfit
    | succ room =>
      rw [fits, Bool.and_eq_true] at hfit
      obtain ⟨ys, hys, hyes⟩ := segments_stand yes hn.1 hfit.1
      obtain ⟨ns, hns, hno, heval⟩ := branchSegments_stand no hn.2 hfit.2
      refine ⟨.choice test ys ns, ?_, ⟨hyes.sound, hno⟩, rfl, fun env => ?_⟩
      · rw [segmentsOf, hns, hys]
        rfl
      · rw [Segment.eval, expand, hyes.eval, heval]
  | .iterator iterable binder body, room, hn, hfit => by
    cases room with
    | zero => cases hfit
    | succ room =>
      obtain ⟨ss, hss, hbody⟩ := segments_stand body hn hfit
      refine ⟨.each iterable (params binder) ss, ?_, hbody.sound, rfl, fun env => ?_⟩
      · rw [segmentsOf, hss]
        rfl
      · simp only [Segment.eval, expand, hbody.eval, I.call_params]
  | .comment _, _, hn, _ | .evaluated _, _, hn, _ | .attribute .., _, hn, _ | .element .., _, hn, _
  | .document _, _, hn, _ | .foreign, _, hn, _ => hn.elim

theorem segments_stand : ∀ (ns : List Node) {room : Nat}, AreParts ns → allFit room ns = true →
    ∃ ss, segments room ns = .ok ss ∧ StandAll I toText ss ns
  | [], _, _, _ => ⟨[], rfl, .nil⟩
  | n :: ns, _, hns, hfit => by
    rw [allFit, Bool.and_eq_true] at hfit
    obtain ⟨s, hs, hstands⟩ := segmentsOf_stands n hns.1 hfit.1
    obtain ⟨ss, hss, hstand⟩ := segments_stand ns hns.2.2 hfit.2
    refine ⟨s :: ss, ?_, .cons hstands hstand hns.2.1⟩
    rw [segments, hs, hss]
    rfl

theorem branchSegments_stand : ∀ (ns : Option (List Node)) {room : Nat}, IsBranch ns →
    branchFits room ns = true → ∃ ss, branchSegments room ns = .ok ss ∧ Segment.SoundAll ss ∧
      ∀ env, Segment.evalAll I toText env ss = expandBranch I toText env ns
  | none, _, _, _ => ⟨[], rfl, trivial, fun _ => rfl⟩
  | some ns, _, hns, hfit => by
    obtain ⟨ss, hss, hstand⟩ := segments_stand ns hns hfit
    exact ⟨ss, hss, hstand.sound, hstand.eval⟩

end

end

/-! ## Values -/

variable (I toText)

/-- The value of parts that expand to `t`. -/
structure Means (v : Jsx.Value) (t : Env → Text) : Prop where
  sound : v.Sound
  eval (env : Env) : (v.eval I toText env).asText toText = t env

theorem composedValue_means {ns : List Node} (hns : AreParts ns) (hfit : allFit room ns = true) :
    ∃ v, composedValue room ns = .ok v ∧ Means I toText v fun env => expandAll I toText env ns := by
  unfold composedValue
  split
  next htext =>
    exact ⟨_, rfl, trivial, fun env => (expandAll_texts I toText htext env).symm⟩
  next =>
    obtain ⟨ss, hss, hstand⟩ := segments_stand I toText ns hns hfit
    rw [hss]
    exact ⟨.literal ss, rfl, hstand.sound, hstand.eval⟩

theorem composedValue_part {n : Node} (hn : n.IsPart) (hfit : fits room n = true) :
    ∃ v, composedValue room [n] = .ok v ∧ Means I toText v fun env => n.expand I toText env := by
  have hparts : AreParts [n] := ⟨hn, Bool.and_false _, trivial⟩
  have hfits : allFit room [n] = true := by rw [allFit, allFit, hfit, Bool.and_true]
  obtain ⟨v, hv, hmeans⟩ := composedValue_means I toText hparts hfits
  refine ⟨v, hv, hmeans.sound, fun env => ?_⟩
  rw [hmeans.eval, expandAll, expandAll, List.append_nil]

mutual

theorem partValue_means : ∀ (n : Node) {room : Nat}, n.IsPart → fits room n = true →
    ∃ v, partValue room n = .ok v ∧ Means I toText v fun env => n.expand I toText env
  | .encoded code, _, _, _ | .interpolated code, _, _, _ =>
    ⟨.source code, rfl, trivial, fun _ => rfl⟩
  | .conditional test yes no, room, hn, hfit => by
    cases room with
    | zero => cases hfit
    | succ room =>
      rw [fits, Bool.and_eq_true] at hfit
      obtain ⟨v, hv, hyes⟩ := value_means_or_null yes hn.1 hfit.1
      obtain ⟨w, hw, hno⟩ := branchValue_means no hn.2 hfit.2
      refine ⟨.choice test v w, ?_, ⟨hyes.sound, hno.sound⟩, fun env => ?_⟩
      · rw [partValue]
        split
        next hempty =>
          rw [if_pos hempty] at hv
          rw [hv, hw]
          rfl
        next hempty =>
          rw [if_neg hempty] at hv
          rw [hv, hw]
          rfl
      · rw [Value.eval, asText_choice, hyes.eval, hno.eval, expand]
  | .text _, _, hn, hfit | .iterator .., _, hn, hfit => composedValue_part I toText hn hfit
  | .comment _, _, hn, _ | .evaluated _, _, hn, _ | .attribute .., _, hn, _ | .element .., _, hn, _
  | .document _, _, hn, _ | .foreign, _, hn, _ => hn.elim

theorem value_means : ∀ (ns : List Node) {room : Nat}, AreParts ns → allFit room ns = true →
    ∃ v, value room ns = .ok v ∧ Means I toText v fun env => expandAll I toText env ns
  | [], _, hns, hfit => composedValue_means I toText hns hfit
  | [n], _, hns, hfit => by
    rw [allFit, Bool.and_eq_true] at hfit
    obtain ⟨v, hv, hmeans⟩ := partValue_means n hns.1 hfit.1
    refine ⟨v, hv, hmeans.sound, fun env => ?_⟩
    rw [hmeans.eval, expandAll, expandAll, List.append_nil]
  | _ :: _ :: _, _, hns, hfit => composedValue_means I toText hns hfit

theorem value_means_or_null : ∀ (ns : List Node) {room : Nat}, AreParts ns →
    allFit room ns = true → ∃ v, (if ns.isEmpty then .ok .null else value room ns) = .ok v ∧
      Means I toText v fun env => expandAll I toText env ns
  | [], _, _, _ => ⟨.null, rfl, trivial, fun _ => rfl⟩
  | n :: ns, _, hns, hfit => value_means (n :: ns) hns hfit

theorem branchValue_means : ∀ (ns : Option (List Node)) {room : Nat}, IsBranch ns →
    branchFits room ns = true → ∃ v, branchValue room ns = .ok v ∧
      Means I toText v fun env => expandBranch I toText env ns
  | none, _, _, _ => ⟨.null, rfl, trivial, fun _ => rfl⟩
  | some ns, _, hns, hfit => value_means_or_null ns hns hfit

end

/-! ## Attributes -/

theorem attributeOf_means {name : Text} {parts : List Node} (hname : isStyle name = false)
    (hparts : parts ≠ []) (hvalue : AreParts parts) (hquote : '\x22' ∉ literalText parts)
    (hfit : allFit room parts = true) :
    ∃ a m, attributeOf room name parts = .ok a ∧
      a.print = attributeName name ++ '=' :: Symbol.spell a.valueSymbols ∧
      readAttribute I toText a.valueSymbols = some m ∧
      ∀ env, (m env).asText toText = expandAll I toText env parts := by
  unfold attributeOf
  rw [hname, if_neg Bool.false_ne_true]
  split
  case h_1 => exact absurd rfl hparts
  case h_2 code | h_3 code =>
    have hends : Ends [.char '}'] := ends_char (by decide) (by decide) []
    have hread : Code.readAttribute (.char '{' :: [.source code] ++ [.char '}']) =
        some (.source code) := readAttribute_braces (reads_code_source hends)
    refine ⟨_, _, rfl, Attribute.print_source _ _, readAttribute_of_code hread, fun env => ?_⟩
    rw [expandAll, expandAll, List.append_nil]
    rfl
  case h_4 =>
    split
    next htext =>
      exact ⟨_, _, rfl, Attribute.print_quoted _ _,
        readAttribute_of_code (readAttribute_quoted hquote),
        fun env => (expandAll_texts I toText htext env).symm⟩
    next =>
      obtain ⟨ss, hss, hstand⟩ := segments_stand I toText parts hvalue hfit
      have hread := readAttribute_braces
        (reads_code_template (Segment.reads_symbolsAll ss hstand.sound [.char '}']))
      rw [hss]
      refine ⟨_, _, rfl, Attribute.print_literal _ _, readAttribute_of_code hread, fun env => ?_⟩
      rw [Code.eval, Segment.eval_piecesAll]
      exact hstand.eval env

theorem property_means {name : Text} {parts : List Node} (hname : isStyle name = false)
    (hparts : parts ≠ []) (hvalue : AreParts parts) (hfit : allFit room parts = true) :
    ∃ v m, property room name parts = .ok (.value (attributeName name) v) ∧
      v.print = Symbol.spell v.symbols ∧ readWhole I toText v.symbols = some m ∧
      ∀ env, (m env).asText toText = expandAll I toText env parts := by
  obtain ⟨v, hv, hmeans⟩ := value_means I toText parts hvalue hfit
  have hread := Jsx.Value.reads_symbols hmeans.sound ends_nil
  rw [List.append_nil] at hread
  refine ⟨v, _, ?_, v.spell_symbols.symm, readWhole_of_reads hread, fun env => ?_⟩
  · rw [property, hname, if_neg Bool.false_ne_true, if_neg (by simpa using hparts), hv]
    rfl
  · rw [Jsx.Value.eval_code]
    exact hmeans.eval env

/-- Both written forms of an attribute value mean the expansion of its parts. In the attribute of an
element the name is followed by a text in double quotes or an expression in braces; in a spread
object the value is an expression. -/
theorem written_value_expands {name : Text} {parts : List Node} (hname : isStyle name = false)
    (hparts : parts ≠ []) (hvalue : AreParts parts) (hquote : '\x22' ∉ literalText parts)
    (hfit : allFit room parts = true) :
    (∃ a m, attributeOf room name parts = .ok a ∧
      a.print = attributeName name ++ '=' :: Symbol.spell a.valueSymbols ∧
      readAttribute I toText a.valueSymbols = some m ∧
      ∀ env, (m env).asText toText = expandAll I toText env parts) ∧
    ∃ v m, property room name parts = .ok (.value (attributeName name) v) ∧
      v.print = Symbol.spell v.symbols ∧ readWhole I toText v.symbols = some m ∧
      ∀ env, (m env).asText toText = expandAll I toText env parts :=
  ⟨attributeOf_means I toText hname hparts hvalue hquote hfit,
    property_means I toText hname hparts hvalue hfit⟩

/-- Names stand for what they are bound to, and a list is written with commas. -/
def bindings : Interpretation (List (Text × Text)) Text Unit where
  holds env test := (env.lookup test).isSome
  list env iterable := ((env.lookup iterable).map (Text.splitOn ',')).getD []
  value env source := (env.lookup source).getD []
  index := Text.ofNat
  bind env name value := (name, value) :: env
  run env _ := env
  setting _ _ := ()

/-- An else-if chain and an iteration between texts that have to be escaped. -/
def price : List Node :=
  [.text "a\x60".toList,
    .conditional "big".toList [.encoded "size".toList]
      (some [.conditional "small".toList [.text "s".toList] none]),
    .text " $".toList,
    .iterator "tags".toList ⟨"t".toList, some "i".toList⟩
      [.text "\x7b".toList, .interpolated "t".toList, .encoded "i".toList]]

theorem written_value_expands_price :
    AreParts price ∧ allFit 2 price = true ∧
      (∃ a m, attributeOf 2 "class".toList price = .ok a ∧
        a.print = "className=".toList ++ Symbol.spell a.valueSymbols ∧
        readAttribute bindings id a.valueSymbols = some m ∧
        (m [("small".toList, []), ("tags".toList, "x,y".toList)]).asText id =
          "a\x60s $\x7bx0\x7by1".toList) := by
  have hparts : AreParts price := by
    refine ⟨trivial, rfl, ⟨⟨trivial, rfl, trivial⟩, ?_, rfl, trivial⟩, rfl, trivial, rfl, ?_, rfl,
      trivial⟩
    · exact ⟨⟨trivial, rfl, trivial⟩, trivial⟩
    · exact ⟨trivial, rfl, trivial, rfl, trivial, rfl, trivial⟩
  have hname : isStyle "class".toList = false := rfl
  have hfit : allFit 2 price = true := rfl
  obtain ⟨⟨a, m, ha, hprint, hread, hm⟩, -⟩ :=
    written_value_expands bindings id hname (List.cons_ne_nil _ _) hparts (by decide) hfit
  exact ⟨hparts, hfit, a, m, ha, hprint, hread, by rw [hm]; decide⟩

end Lower

end Stencil
