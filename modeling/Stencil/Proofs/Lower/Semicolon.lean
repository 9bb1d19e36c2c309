import Stencil.Proofs.Jsx.Semicolon
import Stencil.Proofs.Lower.Style

/-!
# Semicolons of style objects

In a style attribute a semicolon ends a declaration, so that one that is left in a written value has
swallowed a declaration. The only semicolons of a style object are those of the code in it: the
object has as many as the expressions and the tests of the attribute have together (`count_style`).

The proof is an account. The reader uses up the semicolons that end a declaration, and what it has
put out and still holds has those of the code that it has read (`readPart_account`). In a
conditional value a semicolon is either the last character of a branch, which is stripped, or
refused.
-/

namespace Stencil

open Text

namespace Node

/-! ## The code of a value -/

mutual

/-- The expressions and the tests of a part of a style value. -/
def sources : Node → List Text
  | .encoded source | .interpolated source => [source]
  | .conditional test children alternate =>
    test :: (sourcesAll children ++ sourcesBranch alternate)
  | _ => []

def sourcesAll : List Node → List Text
  | [] => []
  | n :: ns => sources n ++ sourcesAll ns

def sourcesBranch : Option (List Node) → List Text
  | none => []
  | some ns => sourcesAll ns

end

mutual

/-- Whether an iteration stands among the parts, at any depth of conditionals. -/
def hasIteration : Node → Bool
  | .iterator .. => true
  | .conditional _ children alternate => anyIteration children || branchIteration alternate
  | _ => false

def anyIteration : List Node → Bool
  | [] => false
  | n :: ns => hasIteration n || anyIteration ns

def branchIteration : Option (List Node) → Bool
  | none => false
  | some ns => anyIteration ns

end

end Node

namespace Lower

open Jsx Node

variable {room : Nat}

theorem refuse_ne_ok {α : Type} {misuse : Misuse} {n : Node} {x : α} :
    refuse room misuse n ≠ .ok x := by
  unfold refuse
  split <;> exact nofun

mutual

theorem hasIteration_of_rejectIteration : ∀ (n : Node) {room : Nat},
    rejectIteration room n = .ok () → hasIteration n = false
  | .iterator .., _, h => absurd h refuse_ne_ok
  | .conditional test yes no, 0, h => nomatch h
  | .conditional test yes no, room + 1, h => by
    obtain ⟨_, hyes, hno⟩ := exists_of_bind_eq_ok h
    rw [hasIteration, anyIteration_of_rejectIterations yes hyes,
      branchIteration_of_rejectBranchIterations no hno, Bool.or_false]
  | .text _, _, _ | .comment _, _, _ | .encoded _, _, _ | .interpolated _, _, _
  | .evaluated _, _, _ | .attribute .., _, _ | .element .., _, _ | .document _, _, _
  | .foreign, _, _ => rfl

theorem anyIteration_of_rejectIterations : ∀ (ns : List Node) {room : Nat},
    rejectIterations room ns = .ok () → anyIteration ns = false
  | [], _, _ => rfl
  | n :: ns, _, h => by
    obtain ⟨_, hn, hns⟩ := exists_of_bind_eq_ok h
    rw [anyIteration, hasIteration_of_rejectIteration n hn, anyIteration_of_rejectIterations ns hns,
      Bool.or_false]

theorem branchIteration_of_rejectBranchIterations : ∀ (ns : Option (List Node)) {room : Nat},
    rejectBranchIterations room ns = .ok () → branchIteration ns = false
  | none, _, _ => rfl
  | some ns, _, h => anyIteration_of_rejectIterations ns h

end

/-! ## Conditionals in a value -/

mutual

theorem sources_stripLast : ∀ n : Node,
    sources (stripLast n).1 = sources n ∧ hasIteration (stripLast n).1 = hasIteration n
  | .text value => by
    rw [stripLast]
    split <;> exact ⟨rfl, rfl⟩
  | .conditional test yes no => by
    obtain ⟨hyes, hyesIteration⟩ := sourcesAll_stripTerminator yes
    obtain ⟨hno, hnoIteration⟩ := sourcesBranch_stripBranchTerminator no
    rw [stripLast, sources, sources, hyes, hno, hasIteration, hasIteration, hyesIteration,
      hnoIteration]
    exact ⟨rfl, rfl⟩
  | .comment _ | .encoded _ | .interpolated _ | .evaluated _ | .attribute .. | .element ..
  | .iterator .. | .document _ | .foreign => ⟨rfl, rfl⟩

theorem sourcesAll_stripTerminator : ∀ ns : List Node,
    sourcesAll (stripTerminator ns).1 = sourcesAll ns ∧
      anyIteration (stripTerminator ns).1 = anyIteration ns
  | [] => ⟨rfl, rfl⟩
  | [n] => by
    obtain ⟨hn, hiteration⟩ := sources_stripLast n
    rw [stripTerminator, sourcesAll, sourcesAll, hn, anyIteration, anyIteration, hiteration]
    exact ⟨rfl, rfl⟩
  | n :: m :: ns => by
    obtain ⟨hns, hiteration⟩ := sourcesAll_stripTerminator (m :: ns)
    rw [stripTerminator, sourcesAll, sourcesAll, hns, anyIteration, anyIteration, hiteration]
    · exact ⟨rfl, rfl⟩
    · exact nofun

theorem sourcesBranch_stripBranchTerminator : ∀ ns : Option (List Node),
    sourcesBranch (stripBranchTerminator ns).1 = sourcesBranch ns ∧
      branchIteration (stripBranchTerminator ns).1 = branchIteration ns
  | none => ⟨rfl, rfl⟩
  | some ns => sourcesAll_stripTerminator ns

end

mutual

theorem count_segmentsOf : ∀ (n : Node) {room : Nat} {ss : List Segment},
    hasIteration n = false → hasSemicolon n = false → segmentsOf room n = .ok ss →
      (Segment.printAll ss).count ';' = (sources n).flatten.count ';'
  | .text value, _, _, _, hvalue, h => by
    cases h
    have hvalue : value.contains ';' = false := hvalue
    rw [Segment.printAll, Segment.printAll, List.append_nil, Segment.print, count_escapeLiteral]
    exact List.count_eq_zero.mpr fun hmem => by
      rw [List.contains_iff_mem.mpr hmem] at hvalue
      cases hvalue
  | .encoded source, _, _, _, _, h | .interpolated source, _, _, _, _, h => by
    cases h
    simp [Segment.printAll, Segment.print, sources]
  | .comment _, _, _, _, _, h => by
    cases h
    rfl
  | .conditional test yes no, 0, _, _, _, h => nomatch h
  | .conditional test yes no, room + 1, _, hiteration, hsemicolon, h => by
    obtain ⟨no', hno, h⟩ := exists_of_bind_eq_ok h
    obtain ⟨yes', hyes, h⟩ := exists_of_bind_eq_ok h
    cases h
    rw [hasIteration, Bool.or_eq_false_iff] at hiteration
    rw [hasSemicolon, Bool.or_eq_false_iff] at hsemicolon
    rw [Segment.printAll, Segment.printAll, List.append_nil, Segment.count_choice,
      count_segments yes hiteration.1 hsemicolon.1 hyes,
      count_branchSegments no hiteration.2 hsemicolon.2 hno]
    simp [sources]
  | .iterator .., _, _, hiteration, _, _ => nomatch hiteration
  | .evaluated _, _, _, _, _, h | .attribute .., _, _, _, _, h | .element .., _, _, _, _, h
  | .document _, _, _, _, _, h | .foreign, _, _, _, _, h => by
    rw [segmentsOf] at h
    exact absurd h refuse_ne_ok

theorem count_segments : ∀ (ns : List Node) {room : Nat} {ss : List Segment},
    anyIteration ns = false → anySemicolon ns = false → segments room ns = .ok ss →
      (Segment.printAll ss).count ';' = (sourcesAll ns).flatten.count ';'
  | [], _, _, _, _, h => by
    cases h
    rfl
  | n :: ns, _, _, hiteration, hsemicolon, h => by
    obtain ⟨first, hfirst, h⟩ := exists_of_bind_eq_ok h
    obtain ⟨rest, hrest, h⟩ := exists_of_bind_eq_ok h
    cases h
    rw [anyIteration, Bool.or_eq_false_iff] at hiteration
    rw [anySemicolon, Bool.or_eq_false_iff] at hsemicolon
    rw [Segment.printAll_append, List.count_append,
      count_segmentsOf n hiteration.1 hsemicolon.1 hfirst,
      count_segments ns hiteration.2 hsemicolon.2 hrest, sourcesAll, List.flatten_append,
      List.count_append]

theorem count_branchSegments : ∀ (ns : Option (List Node)) {room : Nat} {ss : List Segment},
    branchIteration ns = false → branchSemicolon ns = false → branchSegments room ns = .ok ss →
      (Segment.printAll ss).count ';' = (sourcesBranch ns).flatten.count ';'
  | none, _, _, _, _, h => by
    cases h
    rfl
  | some ns, _, _, hiteration, hsemicolon, h => count_segments ns hiteration hsemicolon h

end

theorem count_choiceInValue {test : Text} {yes : List Node} {no : Option (List Node)}
    {choice : Segment} {ends : Bool} (hiteration : hasIteration (.conditional test yes no) = false)
    (h : choiceInValue room test yes no = .ok (choice, ends)) :
    choice.print.count ';' = (sources (.conditional test yes no)).flatten.count ';' := by
  obtain ⟨hyes, hyesIteration⟩ := sourcesAll_stripTerminator yes
  obtain ⟨hno, hnoIteration⟩ := sourcesBranch_stripBranchTerminator no
  rw [hasIteration, Bool.or_eq_false_iff, ← hyesIteration, ← hnoIteration] at hiteration
  unfold choiceInValue at h
  dsimp only at h
  split at h
  · exact absurd h refuseStyle_ne_ok
  next hsemicolon =>
    rw [Bool.or_eq_true, not_or, Bool.not_eq_true, Bool.not_eq_true] at hsemicolon
    obtain ⟨yes', hyes', h⟩ := exists_of_bind_eq_ok h
    obtain ⟨no', hno', h⟩ := exists_of_bind_eq_ok h
    cases h
    -- Stripping takes away literal text only: the code is that of the branches as they stood.
    rw [Segment.count_choice, count_segments _ hiteration.1 hsemicolon.1 hyes',
      count_branchSegments _ hiteration.2 hsemicolon.2 hno', hyes, hno]
    simp [sources]

/-! ## Entries -/

theorem count_trimFirst (ps : List Segment) :
    (Segment.printAll (trimFirst ps)).count ';' = (Segment.printAll ps).count ';' := by
  fun_cases trimFirst ps with
  | case1 value rest =>
    simp [Segment.printAll, Segment.print, count_escapeLiteral, count_trimStart]
  | case2 => rfl

theorem count_trimLast (ps : List Segment) :
    (Segment.printAll (trimLast ps)).count ';' = (Segment.printAll ps).count ';' := by
  fun_induction trimLast ps with
  | case1 => rfl
  | case2 value => simp [Segment.printAll, Segment.print, count_escapeLiteral, count_trimEnd]
  | case3 p rest _ ih => simp [Segment.printAll, ih]

/-- What adds nothing to a value is not written. -/
theorem printAll_filter_isPresent (ps : List Segment) :
    Segment.printAll (ps.filter isPresent) = Segment.printAll ps := by
  induction ps with
  | nil => rfl
  | cons p ps ih =>
    cases hp : isPresent p with
    | true => rw [List.filter_cons_of_pos hp, Segment.printAll, Segment.printAll, ih]
    | false =>
      have hnil : p.print = [] := by
        unfold isPresent at hp
        split at hp
        · rfl
        · cases hp
      rw [List.filter_cons_of_neg (by simp [hp]), ih, Segment.printAll, hnil, List.nil_append]

theorem count_plainText {ps : List Segment} (h : ps.all Segment.isText = true) :
    (plainText ps).count ';' = (Segment.printAll ps).count ';' := by
  induction ps with
  | nil => rfl
  | cons p ps ih =>
    rw [List.all_cons, Bool.and_eq_true] at h
    cases p with
    | text value =>
      rw [Segment.printAll, List.count_append, Segment.print, count_escapeLiteral, ← ih h.2,
        ← List.count_append]
      rfl
    | hole | choice | each => cases h.1

theorem semicolons_entry {name : Text} {ps : List Segment} {es : List StyleEntry}
    (hname : ';' ∉ name) (h : entry name ps = .ok es) :
    StyleEntry.semicolons es = (Segment.printAll ps).count ';' := by
  have hkey : (Style.key (trim name)).count ';' = 0 := by
    rw [Style.count_key, count_trim, List.count_eq_zero.mpr hname]
  unfold entry at h
  rw [← count_trimFirst, ← count_trimLast, ← printAll_filter_isPresent]
  generalize (trimLast (trimFirst ps)).filter isPresent = kept at h ⊢
  dsimp only at h
  split at h
  next hempty =>
    cases h
    rw [List.isEmpty_iff.mp hempty]
    rfl
  next =>
    split at h
    · cases h
    · split at h
      next htext =>
        cases h
        simp [StyleEntry.semicolons, StyleEntry.printAll, StyleEntry.print, hkey,
          count_plainText htext]
      next =>
        cases h
        simp [StyleEntry.semicolons, StyleEntry.printAll, StyleEntry.print, hkey, literal]

/-! ## The reader -/

/-- The name that the reader has read has no semicolon. -/
def Reading.Named : Reading → Prop
  | .name begun | .value begun _ => ';' ∉ begun

/-- How many semicolons the value has that the reader is in. -/
def Reading.held : Reading → Nat
  | .name _ => 0
  | .value _ pieces => (Segment.printAll pieces).count ';'

/-- From `r` the reader comes to `s` with the entries `es` put out, and `n` semicolons have come to
what it has put out and holds. -/
structure Account (r : Reading) (n : Nat) (es : List StyleEntry) (s : Reading) : Prop where
  named : s.Named
  total : StyleEntry.semicolons es + s.held = r.held + n

theorem Account.trans {r s t : Reading} {m n : Nat} {es fs : List StyleEntry}
    (h : Account r m es s) (k : Account s n fs t) : Account r (m + n) (es ++ fs) t := by
  refine ⟨k.named, ?_⟩
  have hfirst := h.total
  have hsecond := k.total
  rw [StyleEntry.semicolons_append]
  omega

theorem account_piece {name : Text} (ps : List Segment) (p : Segment) (h : ';' ∉ name) :
    Account (.value name ps) (p.print.count ';') [] (.value name (ps ++ [p])) := by
  refine ⟨h, ?_⟩
  rw [Reading.held, Reading.held, Segment.printAll_append, List.count_append, Segment.printAll,
    Segment.printAll, List.append_nil]
  exact Nat.zero_add _

theorem account_entry {name : Text} {ps : List Segment} {es : List StyleEntry} (hname : ';' ∉ name)
    (h : entry name ps = .ok es) : Account (.value name ps) 0 es (.name []) :=
  ⟨List.not_mem_nil, semicolons_entry hname h⟩

variable {whole : List Node} {r s : Reading} {es : List StyleEntry}

/-- The text of a chunk has no semicolon. -/
def Chunk.Whole : Chunk → Prop
  | .text t => ';' ∉ t
  | .colon | .semicolon => True

theorem readChunk_account {c : Chunk} (hnamed : r.Named)
    (h : readChunk room whole r c = .ok (es, s)) (hc : c.Whole) : Account r 0 es s := by
  have hpiece {name : Text} {ps : List Segment} {t : Text} (hname : ';' ∉ name) (ht : ';' ∉ t) :
      Account (.value name ps) 0 [] (.value name (ps ++ [.text t])) := by
    have h := account_piece ps (.text t) hname
    rw [Segment.print, count_escapeLiteral, List.count_eq_zero.mpr ht] at h
    exact h
  cases r with
  | name name =>
    cases c with
    | semicolon =>
      rw [readChunk] at h
      split at h
      · cases h
        exact ⟨List.not_mem_nil, rfl⟩
      · exact absurd h refuseStyle_ne_ok
    | colon =>
      cases h
      exact ⟨hnamed, rfl⟩
    | text t =>
      cases h
      refine ⟨?_, rfl⟩
      rw [Reading.Named, List.mem_append, not_or]
      exact ⟨hnamed, hc⟩
  | value name ps =>
    cases c with
    | semicolon =>
      obtain ⟨done, hdone, h⟩ := exists_of_bind_eq_ok h
      cases h
      exact account_entry hnamed hdone
    | colon =>
      cases h
      exact hpiece hnamed (by decide)
    | text t =>
      cases h
      exact hpiece hnamed hc

theorem readChunks_account {t : Text} {cs : List Chunk} (hcs : Chunked t cs) (hnamed : r.Named)
    (h : readChunks room whole r cs = .ok (es, s)) : Account r 0 es s := by
  induction hcs generalizing r es with
  | last _ hsemicolon =>
    obtain ⟨done, u, later, hdone, hlater, rfl⟩ := readChunks_cons h
    cases hlater
    rw [List.append_nil]
    exact readChunk_account hnamed hdone hsemicolon
  | colon _ hsemicolon _ ih | semicolon _ hsemicolon _ ih =>
    obtain ⟨first, u, later, hfirst, hlater, rfl⟩ := readChunks_cons h
    obtain ⟨second, v, last, hsecond, hlast, rfl⟩ := readChunks_cons hlater
    have hbegun := readChunk_account hnamed hfirst hsemicolon
    have hmarked := readChunk_account hbegun.named hsecond trivial
    exact hbegun.trans (hmarked.trans (ih hmarked.named hlast))

theorem readHole_account {n : Node} {source : Text} (hnamed : r.Named)
    (h : readHole room n source r = .ok s) : Account r (source.count ';') [] s := by
  cases r with
  | name name => exact absurd h refuseStyle_ne_ok
  | value name ps =>
    cases h
    have hpiece := account_piece ps (.hole source) hnamed
    rw [Segment.print, count_inserted] at hpiece
    exact hpiece

theorem finishReading_semicolons (hnamed : r.Named) (h : finishReading room whole r = .ok es) :
    StyleEntry.semicolons es = r.held := by
  cases r with
  | name name =>
    rw [finishReading] at h
    split at h
    · cases h
      rfl
    · exact absurd h refuseStyle_ne_ok
  | value name ps => exact semicolons_entry hnamed h

-- The induction is on the parts. A conditional is read in a value or where a declaration may begin:
-- in a value it is a piece, and where its branches are declarations each is read from the start.
mutual

theorem readPart_account : ∀ (n : Node) {whole : List Node} {r s : Reading}
    {es : List StyleEntry}, hasIteration n = false → r.Named →
      readPart room whole r n = .ok (es, s) → Account r ((sources n).flatten.count ';') es s
  | .text t, _, _, _, _, _, hnamed, h => by
    rw [readPart] at h
    exact readChunks_account (chunked t) hnamed h
  | .encoded source, _, _, _, _, _, hnamed, h | .interpolated source, _, _, _, _, _, hnamed, h => by
    obtain ⟨s, hs, hok⟩ := exists_of_bind_eq_ok h
    cases hok
    have hhole := readHole_account hnamed hs
    rw [sources, List.flatten_singleton]
    exact hhole
  | .comment _, _, _, _, _, _, hnamed, h => by
    cases h
    exact ⟨hnamed, Nat.zero_add _⟩
  | .conditional test yes no, _, r, _, _, hiteration, hnamed, h => by
    cases r with
    | value name ps =>
      rw [readPart] at h
      obtain ⟨⟨choice, ends⟩, hchoice, h⟩ := exists_of_bind_eq_ok h
      have hpiece := account_piece ps choice hnamed
      rw [count_choiceInValue hiteration hchoice] at hpiece
      dsimp only at h
      split at h
      · obtain ⟨done, hdone, h⟩ := exists_of_bind_eq_ok h
        cases h
        exact hpiece.trans (account_entry hnamed hdone)
      · cases h
        exact hpiece
    | name name =>
      rw [readPart] at h
      split at h
      · obtain ⟨ys, hys, h⟩ := exists_of_bind_eq_ok h
        obtain ⟨ns, hns, h⟩ := exists_of_bind_eq_ok h
        cases h
        rw [hasIteration, Bool.or_eq_false_iff] at hiteration
        have hyes := readParts_semicolons yes hiteration.1 (r := .name []) List.not_mem_nil hys
        have hno := readBranch_semicolons no hiteration.2 hns
        refine ⟨hnamed, ?_⟩
        have hspread : StyleEntry.semicolons [.spread test ys ns] =
            test.count ';' + (StyleEntry.semicolons ys + StyleEntry.semicolons ns) := by
          simp [StyleEntry.semicolons, StyleEntry.printAll, StyleEntry.print]
        rw [hspread, hyes, hno, sources, List.flatten_cons, List.flatten_append, List.count_append,
          List.count_append, Reading.held, Reading.held, Nat.add_zero, Nat.zero_add, Nat.zero_add]
      · exact absurd h refuseStyle_ne_ok
  | .iterator .., _, _, _, _, hiteration, _, _ => nomatch hiteration
  | .evaluated _, _, _, _, _, _, _, h | .attribute .., _, _, _, _, _, _, h
  | .element .., _, _, _, _, _, _, h | .document _, _, _, _, _, _, _, h
  | .foreign, _, _, _, _, _, _, h => by
    unfold readPart at h
    exact absurd h refuse_ne_ok

theorem readParts_semicolons : ∀ (ns : List Node) {whole : List Node} {r : Reading}
    {es : List StyleEntry}, anyIteration ns = false → r.Named → readParts room whole r ns = .ok es →
      StyleEntry.semicolons es = r.held + (sourcesAll ns).flatten.count ';'
  | [], _, _, _, _, hnamed, h => finishReading_semicolons hnamed h
  | n :: ns, _, _, _, hiteration, hnamed, h => by
    obtain ⟨⟨done, s⟩, hdone, h⟩ := exists_of_bind_eq_ok h
    obtain ⟨later, hlater, h⟩ := exists_of_bind_eq_ok h
    cases h
    rw [anyIteration, Bool.or_eq_false_iff] at hiteration
    have hpart := readPart_account n hiteration.1 hnamed hdone
    have hrest := readParts_semicolons ns hiteration.2 hpart.named hlater
    have htotal := hpart.total
    rw [StyleEntry.semicolons_append, sourcesAll, List.flatten_append, List.count_append]
    omega

theorem readBranch_semicolons : ∀ (ns : Option (List Node)) {es : List StyleEntry},
    branchIteration ns = false → readBranch room ns = .ok es →
      StyleEntry.semicolons es = (sourcesBranch ns).flatten.count ';'
  | none, _, _, h => by
    cases h
    rfl
  | some ns, _, hiteration, h => by
    have hns := readParts_semicolons ns hiteration (r := .name []) List.not_mem_nil h
    rw [Reading.held, Nat.zero_add] at hns
    exact hns

end

/-! ## Style objects -/

theorem sourcesAll_of_literal {parts : List Node}
    (h : parts.all (fun n => n.isText || n.isComment) = true) : sourcesAll parts = [] := by
  induction parts with
  | nil => rfl
  | cons n ns ih =>
    rw [List.all_cons, Bool.and_eq_true] at h
    rw [sourcesAll, ih h.2, List.append_nil]
    cases n with
    | text | comment => rfl
    | _ => cases h.1

/-- A style object has as many semicolons as the expressions and the tests of the attribute. -/
theorem count_style {parts : List Node} {object : Jsx.Style} (h : style room parts = .ok object) :
    object.print.count ';' = (sourcesAll parts).flatten.count ';' := by
  obtain ⟨_, hiterations, h⟩ := exists_of_bind_eq_ok h
  have hiteration := anyIteration_of_rejectIterations parts hiterations
  split at h
  next hliteral =>
    rw [sourcesAll_of_literal hliteral]
    dsimp only at h
    split at h
    · cases h
    · cases h
    next declared _ hdeclared =>
      cases h
      exact Jsx.Style.count_literal (Style.unmarked_declarations hdeclared)
  next =>
    obtain ⟨es, hes, h⟩ := exists_of_bind_eq_ok h
    split at h
    · exact absurd h refuseStyle_ne_ok
    · cases h
      have hes := readParts_semicolons parts hiteration (r := .name []) List.not_mem_nil hes
      rw [Jsx.Style.print, count_object]
      rw [Reading.held, Nat.zero_add] at hes
      exact hes

/-- No declaration is swallowed by a value that is written: a style object has a semicolon only
within an expression or a test of the attribute. -/
theorem style_semicolon_free_iff {parts : List Node} {object : Jsx.Style}
    (h : style room parts = .ok object) :
    ';' ∉ object.print ↔ ∀ source ∈ sourcesAll parts, ';' ∉ source := by
  rw [← List.count_eq_zero, count_style h, List.count_eq_zero, List.mem_flatten]
  constructor
  · intro hnone source hsource hmem
    exact hnone ⟨source, hsource, hmem⟩
  · rintro hnone ⟨source, hsource, hmem⟩
    exact hnone source hsource hmem

/-- A value that ends in the branches of a chain of conditionals, and declarations under a
condition. -/
def shades : List Node :=
  [.text "color: ".toList,
    .conditional "it.warm".toList [.text "red; ".toList]
      (some [.conditional "it.cold".toList [.text "blue;".toList] (some [.encoded "it.c".toList])]),
    .comment " ; ".toList, .text "width: 1px;".toList,
    .conditional "it.fixed".toList
      [.text "top: 0; left: ".toList, .interpolated "it.x".toList] none]

theorem style_semicolon_free_shades :
    (∀ source ∈ sourcesAll shades, ';' ∉ source) ∧
      ∃ object, style 2 shades = .ok object ∧ ';' ∉ object.print := by
  have hsources : ∀ source ∈ sourcesAll shades, ';' ∉ source := by decide +kernel
  have hsome : (style 2 shades).toOption.isSome = true := by decide +kernel
  obtain ⟨object, hobject⟩ := Option.isSome_iff_exists.mp hsome
  have hstyle := eq_ok_of_toOption hobject
  exact ⟨hsources, object, hstyle, (style_semicolon_free_iff hstyle).mpr hsources⟩

end Lower

end Stencil
