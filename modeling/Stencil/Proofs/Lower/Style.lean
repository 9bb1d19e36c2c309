import Stencil.Proofs.Lower.Expansion
import Stencil.Proofs.Lower.StylePieces

/-!
# Style objects keep their declarations

The parts of a style attribute are read one after another into the entries of an object. In an
environment the parts also expand to a text, and that text declares something. Where conditionals
stand between declarations (`StyleParts`), the object has in the environment what the text declares
(`style_declares`).

What is pending in the reader is the text of a declaration that has begun. One step of the reader
completes entries and leaves something else pending, and the text that was pending, followed by what
was read, declares just these entries before what is pending then (`Advance`). Steps compose, so the
same holds of all the parts.
-/

namespace Stencil.Lower

open Jsx Text Node
open Stencil.Style (declare Settled settled_nil)

variable {Env Value Setting : Type} (I : Interpretation Env Value Setting) (toText : Value → Text)
  (env : Env)

/-! ## The reader -/

namespace Reading

/-- The text of the declaration that has begun. -/
def pending : Reading → Text
  | .name begun => begun
  | .value declared pieces => declared ++ ':' :: Segment.evalAll I toText env pieces

/-- What is pending can be read as one declaration. -/
def Good : Reading → Prop
  | .name begun => ':' ∉ begun ∧ ';' ∉ begun
  | .value declared pieces => ':' ∉ declared ∧ ';' ∉ declared ∧ Pieces I toText env pieces ∧
      ';' ∉ Segment.evalAll I toText env pieces

variable {I toText env} in
theorem good_nil : (Reading.name []).Good I toText env := ⟨List.not_mem_nil, List.not_mem_nil⟩

/-- Text may follow. -/
def Open : Reading → Prop
  | .name _ => True
  | .value _ pieces => ∀ p ∈ pieces.getLast?, ∀ t, p.Apart (.text t)

end Reading

/-- What is pending is, up to blanks in front of it, what follows the last settled place. -/
structure Follows (before : Text) (r : Reading) : Prop where
  split : ∃ done a q, Settled done ∧ before = done ++ q ∧ allBlank a = true ∧
    r.pending I toText env = a ++ q ∧ ';' ∉ q

/-- Reading `t` completes the entries `es` and leads from `r` to `s`. -/
structure Advance (r : Reading) (t : Text) (es : List StyleEntry) (s : Reading) : Prop where
  good : s.Good I toText env
  sound : StyleEntry.SoundAll es
  follows {before : Text} (h : Follows I toText env before r) : Follows I toText env (before ++ t) s
  declares {before now : List (Text × Text)} {rest : Text}
    (h : declare before (r.pending I toText env ++ (t ++ rest)) = .ok now) :
    ∃ mid, declare mid (s.pending I toText env ++ rest) = .ok now ∧ Adds I toText env es before mid

variable {I toText env} {r s u : Reading}

theorem soundAll_append {es fs : List StyleEntry} (hes : StyleEntry.SoundAll es)
    (hfs : StyleEntry.SoundAll fs) : StyleEntry.SoundAll (es ++ fs) := by
  induction es with
  | nil => exact hfs
  | cons e es ih => exact ⟨hes.1, ih hes.2⟩

theorem Advance.trans {t v : Text} {es fs : List StyleEntry} (h : Advance I toText env r t es s)
    (h' : Advance I toText env s v fs u) : Advance I toText env r (t ++ v) (es ++ fs) u where
  good := h'.good
  sound := soundAll_append h.sound h'.sound
  follows hfollows := by
    rw [← List.append_assoc]
    exact h'.follows (h.follows hfollows)
  declares hdeclare := by
    rw [List.append_assoc] at hdeclare
    obtain ⟨mid, hmid, hes⟩ := h.declares hdeclare
    obtain ⟨last, hlast, hfs⟩ := h'.declares hmid
    exact ⟨last, hlast, adds_append hes hfs⟩

/-- A step that only makes what is pending longer. -/
theorem advance_append {t : Text} (hgood : s.Good I toText env)
    (hpending : s.pending I toText env = r.pending I toText env ++ t) (ht : ';' ∉ t) :
    Advance I toText env r t [] s where
  good := hgood
  sound := trivial
  follows := by
    rintro before ⟨done, a, q, hdone, rfl, ha, hr, hq⟩
    refine ⟨done, a, q ++ t, hdone, List.append_assoc .., ha, ?_, ?_⟩
    · rw [hpending, hr, List.append_assoc]
    · rw [List.mem_append, not_or]
      exact ⟨hq, ht⟩
  declares {before now rest} hdeclare := by
    rw [← List.append_assoc, ← hpending] at hdeclare
    exact ⟨before, hdeclare, adds_nil before⟩

/-- A step that completes what is pending. -/
theorem advance_semicolon {done : List StyleEntry} (hsound : StyleEntry.SoundAll done)
    (hadds : ∀ {before now}, declare before (r.pending I toText env) = .ok now →
      Adds I toText env done before now) : Advance I toText env r [';'] done (.name []) where
  good := ⟨List.not_mem_nil, List.not_mem_nil⟩
  sound := hsound
  follows {before} _ := by
    refine ⟨before ++ [';'], [], [], ?_, (List.append_nil _).symm, rfl, rfl, List.not_mem_nil⟩
    exact Style.settled_append_semicolon before
  declares {before now rest} hdeclare := by
    rw [List.singleton_append, Style.declare_append_semicolon] at hdeclare
    cases hmid : declare before (r.pending I toText env) with
    | error fault =>
      rw [hmid] at hdeclare
      cases hdeclare
    | ok mid =>
      rw [hmid] at hdeclare
      exact ⟨mid, hdeclare, hadds hmid⟩

/-! ## Chunks -/

theorem eq_ok_of_toOption {ε α : Type} {a : Except ε α} {x : α} (h : a.toOption = some x) :
    a = .ok x := by
  cases a with
  | error fault => cases h
  | ok y => exact congrArg _ (Option.some.inj h)

theorem refuseStyle_ne_ok {α : Type} {room : Nat} {fault : Style.Fault} {nodes : List Node}
    {x : α} :
    refuseStyle room fault nodes ≠ .ok x := by
  unfold refuseStyle
  split <;> exact nofun

theorem evalAll_append (ps qs : List Segment) : Segment.evalAll I toText env (ps ++ qs) =
    Segment.evalAll I toText env ps ++ Segment.evalAll I toText env qs := by
  induction ps with
  | nil => rfl
  | cons p ps ih => rw [List.cons_append, Segment.evalAll, Segment.evalAll, ih, List.append_assoc]

theorem pieces_snoc {p : Segment} {ps : List Segment} (hps : Pieces I toText env ps)
    (hp : IsPiece I toText env p) (hlast : ∀ q ∈ ps.getLast?, q.Apart p) :
    Pieces I toText env (ps ++ [p]) := by
  induction ps with
  | nil => exact pieces_cons.mpr ⟨hp, nofun, pieces_nil⟩
  | cons q ps ih =>
    obtain ⟨hq, happart, hrest⟩ := pieces_cons.mp hps
    rw [List.cons_append]
    cases ps with
    | nil =>
      refine pieces_cons.mpr ⟨hq, fun r hr => ?_, ih hrest nofun⟩
      exact Option.mem_some.mp hr ▸ hlast q rfl
    | cons r ps => exact pieces_cons.mpr ⟨hq, happart, ih hrest hlast⟩

/-- A piece after the others in a value. -/
theorem advance_piece {declared : Text} {p : Segment} {ps : List Segment}
    (hgood : (Reading.value declared ps).Good I toText env) (hp : IsPiece I toText env p)
    (hlast : ∀ q ∈ ps.getLast?, q.Apart p) (hsemicolon : ';' ∉ p.eval I toText env) :
    Advance I toText env (.value declared ps) (p.eval I toText env) []
      (.value declared (ps ++ [p])) := by
  obtain ⟨hcolon, hname, hps, hvalue⟩ := hgood
  have heval : Segment.evalAll I toText env (ps ++ [p]) =
      Segment.evalAll I toText env ps ++ p.eval I toText env := by
    rw [evalAll_append, Segment.evalAll, Segment.evalAll, List.append_nil]
  refine advance_append ⟨hcolon, hname, pieces_snoc hps hp hlast, ?_⟩ ?_ hsemicolon
  · rw [heval, List.mem_append, not_or]
    exact ⟨hvalue, hsemicolon⟩
  · rw [Reading.pending, Reading.pending, heval, List.append_assoc, List.cons_append]

variable {room : Nat} {whole : List Node} {es : List StyleEntry}

theorem readChunk_text {t : Text} (hgood : r.Good I toText env) (hopen : r.Open)
    (hcolon : ':' ∉ t) (hsemicolon : ';' ∉ t) (h : readChunk room whole r (.text t) = .ok (es, s)) :
    Advance I toText env r t es s := by
  cases r with
  | name begun =>
    cases h
    refine advance_append ⟨?_, ?_⟩ rfl hsemicolon
    · rw [List.mem_append, not_or]
      exact ⟨hgood.1, hcolon⟩
    · rw [List.mem_append, not_or]
      exact ⟨hgood.2, hsemicolon⟩
  | value declared ps =>
    cases h
    exact advance_piece (p := .text t) hgood trivial (fun q hq => hopen q hq t) hsemicolon

theorem readChunk_colon (hgood : r.Good I toText env)
    (h : readChunk room whole r .colon = .ok (es, s)) :
    Advance I toText env r [':'] es s ∧ s.Open := by
  cases r with
  | name begun =>
    cases h
    refine ⟨advance_append ⟨hgood.1, hgood.2, pieces_nil, List.not_mem_nil⟩ rfl (by decide), ?_⟩
    exact nofun
  | value declared ps =>
    cases h
    have hlast : ∀ q ∈ ps.getLast?, q.Apart (.text [':']) := by
      intro q _
      cases q with
      | text => exact .inr rfl
      | hole | choice | each => trivial
    have hsemicolon : ';' ∉ [':'] := by decide
    refine ⟨advance_piece (p := .text [':']) hgood trivial hlast hsemicolon, ?_⟩
    intro p hp t
    rw [List.getLast?_concat, Option.mem_some] at hp
    rw [← hp]
    exact .inl rfl

theorem readChunk_semicolon (hgood : r.Good I toText env)
    (h : readChunk room whole r .semicolon = .ok (es, s)) :
    Advance I toText env r [';'] es s ∧ s.Open := by
  cases r with
  | name begun =>
    rw [readChunk] at h
    split at h
    next hblank =>
      cases h
      refine ⟨advance_semicolon trivial fun {before now} hdeclare => ?_, trivial⟩
      rw [Reading.pending, Style.declare_blank hblank] at hdeclare
      cases hdeclare
      exact adds_nil before
    next => exact absurd h refuseStyle_ne_ok
  | value declared ps =>
    obtain ⟨hcolon, hname, hps, hvalue⟩ := hgood
    obtain ⟨done, hentry, hok⟩ := exists_of_bind_eq_ok h
    cases hok
    obtain ⟨hsound, hadds⟩ := entry_adds hps hentry hcolon hname hvalue
    exact ⟨advance_semicolon hsound hadds, trivial⟩

/-- A text and its chunks. -/
inductive Chunked : Text → List Chunk → Prop where
  | last {t : Text} (hcolon : ':' ∉ t) (hsemicolon : ';' ∉ t) : Chunked t [.text t]
  | colon {t rest : Text} {cs : List Chunk} (hcolon : ':' ∉ t) (hsemicolon : ';' ∉ t)
      (h : Chunked rest cs) : Chunked (t ++ ':' :: rest) (.text t :: .colon :: cs)
  | semicolon {t rest : Text} {cs : List Chunk} (hcolon : ':' ∉ t) (hsemicolon : ';' ∉ t)
      (h : Chunked rest cs) : Chunked (t ++ ';' :: rest) (.text t :: .semicolon :: cs)

theorem chunked (t : Text) : Chunked t (chunks t) := by
  induction t with
  | nil => exact .last List.not_mem_nil List.not_mem_nil
  | cons c t ih =>
    rw [chunks]
    split
    next hc =>
      rw [hc]
      exact .colon List.not_mem_nil List.not_mem_nil ih
    next hcolon =>
      split
      next hc =>
        rw [hc]
        exact .semicolon List.not_mem_nil List.not_mem_nil ih
      next hsemicolon =>
        have hcons {d : Char} (hd : ¬ c = d) {u : Text} (hu : d ∉ u) : d ∉ c :: u := by
          rw [List.mem_cons, not_or]
          exact ⟨Ne.symm hd, hu⟩
        generalize hcs : chunks t = cs at ih
        cases ih with
        | last h₁ h₂ => exact .last (hcons hcolon h₁) (hcons hsemicolon h₂)
        | colon h₁ h₂ h => exact .colon (hcons hcolon h₁) (hcons hsemicolon h₂) h
        | semicolon h₁ h₂ h => exact .semicolon (hcons hcolon h₁) (hcons hsemicolon h₂) h

theorem readChunks_cons {c : Chunk} {cs : List Chunk}
    (h : readChunks room whole r (c :: cs) = .ok (es, s)) :
    ∃ done u later, readChunk room whole r c = .ok (done, u) ∧
      readChunks room whole u cs = .ok (later, s) ∧ es = done ++ later := by
  obtain ⟨⟨done, u⟩, hdone, h⟩ := exists_of_bind_eq_ok h
  obtain ⟨⟨later, v⟩, hlater, h⟩ := exists_of_bind_eq_ok h
  cases h
  exact ⟨done, u, later, hdone, hlater, rfl⟩

theorem readChunks_advance {t : Text} {cs : List Chunk} (hcs : Chunked t cs)
    (hgood : r.Good I toText env) (hopen : r.Open)
    (h : readChunks room whole r cs = .ok (es, s)) : Advance I toText env r t es s := by
  induction hcs generalizing r es with
  | last hcolon hsemicolon =>
    obtain ⟨done, u, later, hdone, hlater, rfl⟩ := readChunks_cons h
    cases hlater
    rw [List.append_nil]
    exact readChunk_text hgood hopen hcolon hsemicolon hdone
  | @colon t rest cs hcolon hsemicolon _ ih =>
    obtain ⟨first, u, later, hfirst, hlater, rfl⟩ := readChunks_cons h
    obtain ⟨second, v, last, hsecond, hlast, rfl⟩ := readChunks_cons hlater
    have htext := readChunk_text hgood hopen hcolon hsemicolon hfirst
    obtain ⟨hmark, hopen⟩ := readChunk_colon htext.good hsecond
    exact htext.trans (hmark.trans (ih hmark.good hopen hlast))
  | @semicolon t rest cs hcolon hsemicolon _ ih =>
    obtain ⟨first, u, later, hfirst, hlater, rfl⟩ := readChunks_cons h
    obtain ⟨second, v, last, hsecond, hlast, rfl⟩ := readChunks_cons hlater
    have htext := readChunk_text hgood hopen hcolon hsemicolon hfirst
    obtain ⟨hmark, hopen⟩ := readChunk_semicolon htext.good hsecond
    exact htext.trans (hmark.trans (ih hmark.good hopen hlast))

/-! ## Parts -/

variable (I toText env)

mutual

/-- A part of a style attribute after parts that expand to `before`: text, an expression with a firm
value, or a conditional. A conditional stands where a declaration may begin, and so do its branches
end. -/
def StylePart (before : Text) : Node → Prop
  | .text _ => True
  | .encoded source | .interpolated source => Firm (toText (I.value env source))
  | .conditional _ children alternate => Settled before ∧
      (StyleParts [] children ∧ Settled (expandAll I toText env children)) ∧ StyleBranch alternate
  | .comment _ | .evaluated _ | .attribute .. | .element .. | .iterator .. | .document _
  | .foreign => False

/-- Parts of a style attribute. No text stands next to another. -/
def StyleParts (before : Text) : List Node → Prop
  | [] => True
  | n :: ns => StylePart before n ∧ Parted n ns ∧ StyleParts (before ++ n.expand I toText env) ns

def StyleBranch : Option (List Node) → Prop
  | none => True
  | some ns => StyleParts [] ns ∧ Settled (expandAll I toText env ns)

end

/-- The entries of parts that expand to `t`. -/
structure Declares (es : List StyleEntry) (t : Text) : Prop where
  sound : StyleEntry.SoundAll es
  adds {before now : List (Text × Text)} (h : declare before t = .ok now) :
    Adds I toText env es before now

variable {I toText env}

theorem finishReading_declares (hgood : r.Good I toText env)
    (h : finishReading room whole r = .ok es) :
    Declares I toText env es (r.pending I toText env) := by
  cases r with
  | value declared ps =>
    obtain ⟨hcolon, hname, hps, hvalue⟩ := hgood
    obtain ⟨hsound, hadds⟩ := entry_adds hps h hcolon hname hvalue
    exact ⟨hsound, hadds⟩
  | name begun =>
    rw [finishReading] at h
    split at h
    next hblank =>
      cases h
      refine ⟨trivial, fun {before now} hdeclare => ?_⟩
      rw [Reading.pending, Style.declare_blank hblank] at hdeclare
      cases hdeclare
      exact adds_nil before
    next => exact absurd h refuseStyle_ne_ok

theorem readHole_advance {n : Node} {code : Text} (hgood : r.Good I toText env)
    (hcode : Firm (toText (I.value env code))) (h : readHole room n code r = .ok s) :
    Advance I toText env r (toText (I.value env code)) [] s ∧ s.Open := by
  cases r with
  | name begun => exact absurd h refuseStyle_ne_ok
  | value declared ps =>
    cases h
    have hlast : ∀ q ∈ ps.getLast?, q.Apart (.hole code) := by
      intro q _
      cases q with
      | text | hole | choice | each => trivial
    refine ⟨advance_piece (p := .hole code) hgood hcode hlast hcode.semicolon, ?_⟩
    intro p hp t
    rw [List.getLast?_concat, Option.mem_some] at hp
    rw [← hp]
    trivial

/-- A conditional adds what the branch that it selects adds. -/
theorem adds_spread {test : Text} {yes no : List StyleEntry} {before now : List (Text × Text)}
    (h : Adds I toText env (if I.holds env test then yes else no) before now) :
    Adds I toText env [.spread test yes no] before now := by
  intro k
  rw [h k, StyleEntry.evalAll, StyleEntry.evalAll, StyleEntry.eval]
  simp only [Fields.overlay, Fields.none, Option.none_or]
  split <;> rfl

/-- A conditional where a declaration may begin. -/
theorem advance_spread {test name : Text} {yes no : List StyleEntry} {t v : Text}
    (hname : allBlank name = true) (hyes : Declares I toText env yes t) (ht : Settled t)
    (hno : Declares I toText env no v) (hv : Settled v) :
    Advance I toText env (.name name) (if I.holds env test then t else v) [.spread test yes no]
      (.name name) := by
  have hbranch : Settled (if I.holds env test then t else v) := by
    split
    · exact ht
    · exact hv
  have hdeclares : Declares I toText env (if I.holds env test then yes else no)
      (if I.holds env test then t else v) := by
    split
    · exact hyes
    · exact hno
  refine ⟨?_, ⟨⟨hyes.sound, hno.sound⟩, trivial⟩, ?_, ?_⟩
  · exact ⟨Style.colon_not_mem hname, Style.semicolon_not_mem hname⟩
  · rintro before ⟨done, a, q, hdone, rfl, ha, hpending, hq⟩
    have hblank : allBlank q = true := by
      rw [show name = a ++ q from hpending, allBlank_append, Bool.and_eq_true] at hname
      exact hname.2
    refine ⟨_, name, [], (hdone.append (.inl hblank)).append hbranch, ?_, hname, ?_, ?_⟩
    · rw [List.append_nil]
    · exact (List.append_nil name).symm
    · exact List.not_mem_nil
  · intro before now rest hdeclare
    rw [Reading.pending, Style.declare_blank_append hname,
      Style.declare_append_of_settled hbranch] at hdeclare
    obtain ⟨mid, hmid, hrest⟩ := exists_of_bind_eq_ok hdeclare
    refine ⟨mid, ?_, adds_spread (hdeclares.adds hmid)⟩
    rw [Reading.pending, Style.declare_blank_append hname]
    exact hrest

theorem follows_nil : Follows I toText env [] (.name []) :=
  ⟨[], [], [], settled_nil, rfl, rfl, rfl, List.not_mem_nil⟩

/-- At a settled place nothing is pending. -/
theorem Follows.blank {before : Text} (h : Follows I toText env before r)
    (hbefore : Settled before) :
    allBlank (r.pending I toText env) = true := by
  obtain ⟨done, a, q, -, rfl, ha, hpending, hq⟩ := h
  rw [hpending, allBlank_append, ha, hbefore.allBlank_of_append hq]
  rfl

theorem pending_value_not_blank (declared : Text) (ps : List Segment) :
    allBlank ((Reading.value declared ps).pending I toText env) = false := by
  rw [Reading.pending, allBlank_append, allBlank_cons, show isBlank ':' = false by decide,
    Bool.false_and, Bool.and_false]

mutual

theorem readPart_advance : ∀ (n : Node) {whole : List Node} {before : Text} {r s : Reading}
    {es : List StyleEntry},
    StylePart I toText env before n → r.Good I toText env → Follows I toText env before r →
    (n.isText = true → r.Open) → readPart room whole r n = .ok (es, s) →
      Advance I toText env r (n.expand I toText env) es s ∧ (n.isText = false → s.Open)
  | .text t, _, _, _, _, _, _, hgood, _, hopen, h => by
    rw [readPart] at h
    exact ⟨readChunks_advance (chunked t) hgood (hopen rfl) h, nofun⟩
  | .encoded code, _, _, _, _, _, hn, hgood, _, _, h => by
    obtain ⟨s, hs, hok⟩ := exists_of_bind_eq_ok h
    cases hok
    obtain ⟨hadvance, hopen⟩ := readHole_advance hgood hn hs
    exact ⟨hadvance, fun _ => hopen⟩
  | .interpolated code, _, _, _, _, _, hn, hgood, _, _, h => by
    obtain ⟨s, hs, hok⟩ := exists_of_bind_eq_ok h
    cases hok
    obtain ⟨hadvance, hopen⟩ := readHole_advance hgood hn hs
    exact ⟨hadvance, fun _ => hopen⟩
  | .conditional test yes no, _, _, r, _, _, hn, _, hfollows, _, h => by
    obtain ⟨hbefore, ⟨hyes, hyesSettled⟩, hno⟩ := hn
    have hblank := hfollows.blank hbefore
    cases r with
    | value declared ps =>
      rw [pending_value_not_blank] at hblank
      cases hblank
    | name begun =>
      have hblank : allBlank begun = true := hblank
      rw [readPart, if_pos hblank] at h
      obtain ⟨ys, hys, h⟩ := exists_of_bind_eq_ok h
      obtain ⟨ns, hns, h⟩ := exists_of_bind_eq_ok h
      cases h
      have hy := readParts_declares yes hyes Reading.good_nil follows_nil (fun _ _ _ => trivial) hys
      obtain ⟨hn, hnSettled⟩ := readBranch_declares no hno hns
      rw [expand]
      exact ⟨advance_spread hblank hy hyesSettled hn hnSettled, fun _ => trivial⟩
  | .comment _, _, _, _, _, _, hn, _, _, _, _ | .evaluated _, _, _, _, _, _, hn, _, _, _, _
  | .attribute .., _, _, _, _, _, hn, _, _, _, _ | .element .., _, _, _, _, _, hn, _, _, _, _
  | .iterator .., _, _, _, _, _, hn, _, _, _, _ | .document _, _, _, _, _, _, hn, _, _, _, _
  | .foreign, _, _, _, _, _, hn, _, _, _, _ => hn.elim

theorem readParts_declares : ∀ (ns : List Node) {whole : List Node} {before : Text} {r : Reading}
    {es : List StyleEntry}, StyleParts I toText env before ns → r.Good I toText env →
    Follows I toText env before r → (∀ n ∈ ns.head?, n.isText = true → r.Open) →
    readParts room whole r ns = .ok es →
      Declares I toText env es (r.pending I toText env ++ expandAll I toText env ns)
  | [], _, _, _, _, _, hgood, _, _, h => by
    rw [expandAll, List.append_nil]
    exact finishReading_declares hgood h
  | n :: ns, _, _, _, _, hparts, hgood, hfollows, hopen, h => by
    obtain ⟨hn, hparted, hns⟩ := hparts
    obtain ⟨⟨done, s⟩, hdone, h⟩ := exists_of_bind_eq_ok h
    obtain ⟨later, hlater, h⟩ := exists_of_bind_eq_ok h
    cases h
    obtain ⟨hadvance, hs⟩ := readPart_advance n hn hgood hfollows (hopen n rfl) hdone
    have hsopen : ∀ m ∈ ns.head?, m.isText = true → s.Open := by
      intro m hm htext
      refine hs ?_
      rw [Parted, Option.mem_def.mp hm, Option.any_some, htext, Bool.and_true] at hparted
      exact hparted
    have hrest := readParts_declares ns hns hadvance.good (hadvance.follows hfollows) hsopen hlater
    refine ⟨soundAll_append hadvance.sound hrest.sound, fun {start now} hdeclare => ?_⟩
    rw [expandAll] at hdeclare
    obtain ⟨mid, hmid, hadds⟩ := hadvance.declares hdeclare
    exact adds_append hadds (hrest.adds hmid)

theorem readBranch_declares : ∀ (ns : Option (List Node)) {es : List StyleEntry},
    StyleBranch I toText env ns → readBranch room ns = .ok es →
      Declares I toText env es (expandBranch I toText env ns) ∧
        Settled (expandBranch I toText env ns)
  | none, _, _, h => by
    cases h
    refine ⟨⟨trivial, fun {before now} hdeclare => ?_⟩, settled_nil⟩
    cases hdeclare
    exact adds_nil before
  | some ns, _, hns, h =>
    ⟨readParts_declares ns hns.1 Reading.good_nil follows_nil (fun _ _ _ => trivial) h, hns.2⟩

end

/-! ## Style objects -/

/-- Literal parts of a style attribute are texts. -/
theorem all_isText {before : Text} {parts : List Node}
    (hparts : StyleParts I toText env before parts)
    (h : parts.all (fun n => n.isText || n.isComment) = true) : parts.all Node.isText = true := by
  induction parts generalizing before with
  | nil => rfl
  | cons n ns ih =>
    obtain ⟨hn, -, hns⟩ := hparts
    rw [List.all_cons, Bool.and_eq_true] at h ⊢
    refine ⟨?_, ih hns h.2⟩
    cases n with
    | text => rfl
    | comment => exact hn.elim
    | _ => cases h.1

theorem merged_one (env : Env) {d : List (Text × Text)} (h : (d.map Prod.fst).Nodup) (k : Text) :
    merged (fun d (_ : Env) => Fields.one d.1 d.2) d env k = d.lookup k := by
  induction d with
  | nil => rfl
  | cons p d ih =>
    obtain ⟨key, value⟩ := p
    obtain ⟨hkey, hd⟩ := List.nodup_cons.mp h
    rw [Style.lookup_cons_ite, merged_cons, Fields.overlay, ih hd, Fields.one]
    by_cases hk : k = key
    · have hnone : d.lookup k = none := by
        refine List.lookup_eq_none_iff.mpr fun p hp => ?_
        rw [bne_iff_ne, hk]
        rintro rfl
        exact hkey (List.mem_map.mpr ⟨p, hp, rfl⟩)
      rw [if_pos hk, if_pos hk, hnone, Option.none_or]
    · rw [if_neg hk, if_neg hk, Option.or_none]

/-- The object that is written for a style attribute has, in an environment, what the expansion of
the attribute declares. -/
theorem style_declares {parts : List Node} {object : Jsx.Style}
    {declarations : List (Text × Text)} (hparts : StyleParts I toText env [] parts)
    (h : style room parts = .ok object)
    (hdeclared : Style.declarations (expandAll I toText env parts) = .ok declarations) :
    object.print = Symbol.spell object.symbols ∧ ∃ m, readStyle I toText object.symbols = some m ∧
      ∀ k, m env k = declarations.lookup k := by
  refine ⟨object.spell_symbols.symm, ?_⟩
  obtain ⟨_, -, h⟩ := exists_of_bind_eq_ok h
  split at h
  next htext =>
    rw [expandAll_texts I toText (all_isText hparts htext)] at hdeclared
    dsimp only at h
    rw [hdeclared] at h
    cases declarations with
    | nil => cases h
    | cons d ds =>
      cases h
      have hnone : (([] : List (Text × Text)).map Prod.fst).Nodup := List.nodup_nil
      have hnodup : ((d :: ds).map Prod.fst).Nodup := Style.nodup_addDeclarations hnone hdeclared
      exact ⟨_, Jsx.Style.readStyle_symbols trivial, merged_one env hnodup⟩
  next =>
    obtain ⟨es, hes, h⟩ := exists_of_bind_eq_ok h
    split at h
    · exact absurd h refuseStyle_ne_ok
    · cases h
      have hdeclares :=
        readParts_declares parts hparts Reading.good_nil follows_nil (fun _ _ _ => trivial) hes
      refine ⟨_, Jsx.Style.readStyle_symbols hdeclares.sound, fun k => ?_⟩
      have hadds := hdeclares.adds hdeclared k
      rw [List.lookup_nil, Option.or_none] at hadds
      exact hadds.symm

/-- Declarations of which some are repeated, one value has a colon and some stand under a
condition. -/
def sheet : List Node :=
  [.text "color: ".toList, .encoded "c".toList, .text " !important; ".toList,
    .conditional "big".toList
      [.text "font-size:".toList, .interpolated "size".toList, .text "; color: red ; ".toList]
      (some [.conditional "small".toList [.text "top: 0; ".toList] none]),
    .text "--x: a:b".toList]

def sheetBindings : List (Text × Text) :=
  [("c".toList, "blue".toList), ("big".toList, []), ("size".toList, "2em".toList)]

theorem style_declares_sheet :
    Style.declarations (expandAll bindings id sheetBindings sheet) =
        .ok [("color".toList, "red".toList), ("fontSize".toList, "2em".toList),
          ("--x".toList, "a:b".toList)] ∧
      ∃ object m, style 2 sheet = .ok object ∧ readStyle bindings id object.symbols = some m ∧
        m sheetBindings "color".toList = some "red".toList := by
  have hblue : Firm (id (bindings.value sheetBindings "c".toList)) := by
    refine ⟨List.cons_ne_nil _ _, ⟨?_, ?_⟩, by decide, by decide⟩ <;> (rintro c ⟨⟩; decide)
  have hsize : Firm (id (bindings.value sheetBindings "size".toList)) := by
    refine ⟨List.cons_ne_nil _ _, ⟨?_, ?_⟩, by decide, by decide⟩ <;> (rintro c ⟨⟩; decide)
  have hsettled {t : Text} (u : Text) (h : t = u ++ [';', ' ']) : Settled t :=
    .inr ⟨u, [' '], h, rfl⟩
  have htop : StyleParts bindings id sheetBindings []
      [.conditional "small".toList [.text "top: 0; ".toList] none] :=
    ⟨⟨settled_nil, ⟨⟨trivial, rfl, trivial⟩, hsettled "top: 0".toList rfl⟩, trivial⟩, rfl, trivial⟩
  have hparts : StyleParts bindings id sheetBindings [] sheet := by
    refine ⟨trivial, rfl, hblue, rfl, trivial, rfl, ⟨?_, ⟨?_, ?_⟩, ⟨htop, settled_nil⟩⟩, rfl,
      trivial, rfl, trivial⟩
    · exact hsettled "color: blue !important".toList rfl
    · exact ⟨trivial, rfl, hsize, rfl, trivial, rfl, trivial⟩
    · exact hsettled "font-size:2em; color: red ".toList rfl
  have hdeclared : Style.declarations (expandAll bindings id sheetBindings sheet) =
      .ok [("color".toList, "red".toList), ("fontSize".toList, "2em".toList),
        ("--x".toList, "a:b".toList)] :=
    eq_ok_of_toOption (by decide +kernel)
  obtain ⟨object, hstyle⟩ : ∃ object, style 2 sheet = .ok object := by
    have hok : (style 2 sheet).isOk = true := by decide +kernel
    cases hstyle : style 2 sheet with
    | ok object => exact ⟨object, rfl⟩
    | error fault =>
      rw [hstyle] at hok
      cases hok
  obtain ⟨-, m, hm, hlookup⟩ := style_declares hparts hstyle hdeclared
  refine ⟨hdeclared, object, m, hstyle, hm, ?_⟩
  rw [hlookup]
  rfl

end Stencil.Lower
