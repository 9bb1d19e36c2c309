import Stencil.Proofs.Jsx.Semicolon
import Stencil.Proofs.Lower.Style
import Stencil.Proofs.Style.Mapping

/-!
# Literal text read part by part

A literal text can be read in one go, as declarations, or part by part like any other value. Read
part by part it is read declaration by declaration (`readText_eq_readEach`), and a declaration is
read as its shape says. So the two ways agree: where both succeed the entries are the pairs of the
mapping before they are merged, and they differ only in that a declaration without a name and
without a value is refused in the first way and left out in the second (`text_read_as_declared`).
-/

namespace Stencil.Lower

open Jsx Text
open Stencil.Style (Malformed Merges Nameless Shape key pair?)

variable {room : Nat} {whole : List Node}

/-! ## Chunks -/

/-- The delimiters as characters and as chunks. -/
def Delimits (c : Char) (mark : Chunk) : Prop :=
  c = ':' ∧ mark = .colon ∨ c = ';' ∧ mark = .semicolon

theorem exists_chunks_eq (t : Text) : ∃ value rest, chunks t = .text value :: rest := by
  generalize hcs : chunks t = cs
  have hchunked := chunked t
  rw [hcs] at hchunked
  cases hchunked with
  | last | colon | semicolon => exact ⟨_, _, rfl⟩

theorem chunks_append_mark {c : Char} {mark : Chunk} (h : Delimits c mark) (u v : Text) :
    chunks (u ++ c :: v) = chunks u ++ mark :: chunks v := by
  induction u with
  | nil =>
    rcases h with ⟨rfl, rfl⟩ | ⟨rfl, rfl⟩ <;> rfl
  | cons d u ih =>
    obtain ⟨value, rest, hu⟩ := exists_chunks_eq u
    rw [List.cons_append, chunks, chunks, ih, hu]
    split
    · rfl
    · split <;> rfl

theorem chunks_of_not_mem {t : Text} (hcolon : ':' ∉ t) (hsemicolon : ';' ∉ t) :
    chunks t = [.text t] := by
  generalize hcs : chunks t = cs
  have hchunked := chunked t
  rw [hcs] at hchunked
  cases hchunked with
  | last => rfl
  | colon => exact absurd (List.mem_append_right _ List.mem_cons_self) hcolon
  | semicolon => exact absurd (List.mem_append_right _ List.mem_cons_self) hsemicolon

theorem readChunks_cons_eq (r : Reading) (c : Chunk) (cs : List Chunk) :
    readChunks room whole r (c :: cs) = readChunk room whole r c >>= fun p =>
      readChunks room whole p.2 cs >>= fun q => .ok (p.1 ++ q.1, q.2) := rfl

theorem ok_bind {α β : Type} (a : α) (f : α → Except Fault β) : (Except.ok a >>= f) = f a := rfl

theorem readChunks_append (r : Reading) (cs ds : List Chunk) :
    readChunks room whole r (cs ++ ds) = readChunks room whole r cs >>= fun p =>
      readChunks room whole p.2 ds >>= fun q => .ok (p.1 ++ q.1, q.2) := by
  induction cs generalizing r with
  | nil =>
    show readChunks room whole r ds = readChunks room whole r ds >>= fun q => .ok ([] ++ q.1, q.2)
    exact (bind_pure _).symm
  | cons c cs ih =>
    rw [List.cons_append, readChunks_cons_eq, readChunks_cons_eq]
    simp only [ih, bind_assoc, ok_bind, List.append_assoc]

/-- A semicolon completes what the end of the text would complete. -/
theorem readChunk_semicolon_eq (r : Reading) : readChunk room whole r .semicolon =
    finishReading room whole r >>= fun done => .ok (done, .name []) := by
  cases r with
  | value name pieces => rfl
  | name name =>
    rw [readChunk, finishReading]
    split
    · rfl
    · rw [refuseStyle, refuseStyle]
      split <;> rfl

/-! ## Declarations -/

/-- The entries of a literal text that is read from the start of a declaration. -/
def readText (room : Nat) (whole : List Node) (t : Text) : Except Fault (List StyleEntry) :=
  readParts room whole (.name []) [.text t]

theorem readText_eq (t : Text) : readText room whole t =
    readChunks room whole (.name []) (chunks t) >>= fun p =>
      finishReading room whole p.2 >>= fun last => .ok (p.1 ++ last) := rfl

theorem readText_append_semicolon (u v : Text) : readText room whole (u ++ ';' :: v) =
    readText room whole u >>= fun done => readText room whole v >>= fun later =>
      .ok (done ++ later) := by
  rw [readText_eq, readText_eq, readText_eq, chunks_append_mark (.inr ⟨rfl, rfl⟩),
    readChunks_append]
  simp only [readChunks_cons_eq, readChunk_semicolon_eq, bind_assoc, ok_bind, List.append_assoc]

/-- The entries of declarations that are read one by one. -/
def readEach (room : Nat) (whole : List Node) : List Text → Except Fault (List StyleEntry)
  | [] => .ok []
  | d :: ds => readText room whole d >>= fun done => readEach room whole ds >>= fun later =>
      .ok (done ++ later)

theorem readText_eq_readEach (t : Text) :
    readText room whole t = readEach room whole (splitOn ';' t) := by
  by_cases hsemicolon : ';' ∈ t
  · obtain ⟨u, v, ht, hu⟩ := List.eq_append_cons_of_mem hsemicolon
    have hlength : v.length < t.length := by
      rw [ht, List.length_append, List.length_cons]
      omega
    rw [ht, readText_append_semicolon, splitOn_append_mark, splitOn_of_not_mem hu,
      List.singleton_append, readEach, readText_eq_readEach v]
  · rw [splitOn_of_not_mem hsemicolon, readEach, readEach]
    cases readText room whole t with
    | error fault => rfl
    | ok es => exact congrArg Except.ok (List.append_nil es).symm
termination_by t.length

/-! ## One declaration -/

theorem readText_of_not_mem {d : Text} (hcolon : ':' ∉ d) (hsemicolon : ';' ∉ d) :
    readText room whole d =
      if allBlank d then .ok [] else refuseStyle room (.malformed (trim d)) whole := by
  have hchunks : readChunks room whole (.name []) [.text d] = .ok ([], .name d) := rfl
  rw [readText_eq, chunks_of_not_mem hcolon hsemicolon, hchunks, ok_bind, finishReading]
  exact bind_pure _

variable (room whole) in
/-- In a value the reader gathers the text up to the semicolon in pieces. -/
theorem readChunks_value {t : Text} {cs : List Chunk} (hcs : Chunked t cs) (hsemicolon : ';' ∉ t)
    (name : Text) (before : List Segment) :
    ∃ ps, readChunks room whole (.value name before) cs = .ok ([], .value name (before ++ ps)) ∧
      ps.all Segment.isText = true ∧ plainText ps = t := by
  induction hcs generalizing before with
  | @last t => exact ⟨[.text t], rfl, rfl, List.append_nil t⟩
  | @colon t rest cs _ _ _ ih =>
    rw [List.mem_append, List.mem_cons, not_or, not_or] at hsemicolon
    obtain ⟨ps, hread, htext, hplain⟩ := ih hsemicolon.2.2 (before ++ [.text t] ++ [.text [':']])
    refine ⟨.text t :: .text [':'] :: ps, ?_, htext, ?_⟩
    · rw [readChunks_cons_eq, readChunk, ok_bind, readChunks_cons_eq, readChunk, ok_bind, hread]
      simp only [ok_bind, List.append_assoc, List.cons_append, List.nil_append]
    · exact congrArg (fun rest => t ++ ':' :: rest) hplain
  | semicolon => exact absurd (List.mem_append_right _ List.mem_cons_self) hsemicolon

/-- Sources without any values. What literal text means does not depend on them. -/
def voiceless : Interpretation Unit Unit Unit where
  holds _ _ := false
  list _ _ := []
  value _ _ := ()
  index _ := ()
  bind _ _ _ := ()
  run _ _ := ()
  setting _ _ := ()

/-- The entry of a value of literal text. -/
theorem entry_of_text {ps : List Segment} (hps : Pieces voiceless (fun _ => []) () ps)
    (htext : ps.all Segment.isText = true) (name : Text) :
    entry name ps =
      if allBlank (plainText ps) then .ok []
      else if allBlank name then .error (.style .namelessDeclaration none)
      else .ok [.plain (key (trim name)) (trim (plainText ps))] := by
  have heval {qs : List Segment} (hqs : qs.all Segment.isText = true) :
      plainText qs = Segment.evalAll voiceless (fun _ => []) () qs := plainText_eq hqs
  have hpresent : (present ps).all Segment.isText = true := by rw [all_isText_present, htext]
  have hplain : plainText (present ps) = trim (plainText ps) := by
    rw [heval hpresent, evalAll_present hps, heval htext]
  have hnil : (present ps).isEmpty = allBlank (plainText ps) := by
    rw [Bool.eq_iff_iff, List.isEmpty_iff, present_eq_nil_iff hps, heval htext]
  unfold entry
  dsimp only
  rw [show (trimLast (trimFirst ps)).filter isPresent = present ps from rfl, hnil, hplain,
    if_pos hpresent]

theorem readText_pair {name value : Text} (hcolon : ':' ∉ name) (hname : ';' ∉ name)
    (hvalue : ';' ∉ value) :
    readText room whole (name ++ ':' :: value) =
      if allBlank value then .ok []
      else if allBlank name then .error (.style .namelessDeclaration none)
      else .ok [.plain (key (trim name)) (trim value)] := by
  obtain ⟨ps, hread, htext, hplain⟩ := readChunks_value room whole (chunked value) hvalue name []
  rw [List.nil_append] at hread
  have hgood : (Reading.value name []).Good voiceless (fun _ => []) () :=
    ⟨hcolon, hname, pieces_nil, List.not_mem_nil⟩
  have hpieces : Pieces voiceless (fun _ => []) () ps :=
    (readChunks_advance (chunked value) hgood nofun hread).good.2.2.1
  have hbegun : readChunks room whole (.name []) (.text name :: .colon :: chunks value) =
      .ok ([], .value name ps) := by
    show (readChunks room whole (.value name []) (chunks value) >>= _) >>= _ = _
    rw [hread]
    rfl
  rw [readText_eq, chunks_append_mark (.inl ⟨rfl, rfl⟩), chunks_of_not_mem hcolon hname,
    List.singleton_append, hbegun, ok_bind, finishReading, entry_of_text hpieces htext, hplain]
  exact bind_pure _

/-- A declaration that is refused: it has no colon, or a value without a name. -/
def Refused (d : Text) : Prop :=
  allBlank d = false ∧ ':' ∉ d ∨
    ∃ name value, d = name ++ ':' :: value ∧ allBlank name = true ∧ allBlank value = false

theorem Refused.malformed {d : Text} (h : Refused d) : Malformed d := by
  rcases h with ⟨hblank, hcolon⟩ | ⟨name, value, rfl, hname, -⟩
  · exact ⟨hblank, .inl hcolon⟩
  · exact ⟨Style.not_blank_pair name value, .inr ⟨name, value, rfl, hname⟩⟩

/-- The entries of pairs of literal text. -/
def plainEntries (pairs : List (Text × Text)) : List StyleEntry :=
  pairs.map fun p => .plain p.1 p.2

variable {d : Text} {ds : List Text}

theorem readText_of_refused (hsemicolon : ';' ∉ d) (h : Refused d) :
    ∃ fault, readText room whole d = .error fault := by
  rcases h with ⟨hblank, hcolon⟩ | ⟨name, value, rfl, hname, hvalue⟩
  · rw [readText_of_not_mem hcolon hsemicolon, hblank, if_neg Bool.false_ne_true, refuseStyle]
    split <;> exact ⟨_, rfl⟩
  · rw [List.mem_append, List.mem_cons, not_or, not_or] at hsemicolon
    rw [readText_pair (Style.colon_not_mem hname) hsemicolon.1 hsemicolon.2.2, hvalue, hname]
    exact ⟨_, rfl⟩

theorem readText_of_not_refused (hsemicolon : ';' ∉ d) (h : ¬ Refused d) :
    readText room whole d = .ok (plainEntries (pair? d).toList) := by
  cases Style.shape d with
  | blank hblank =>
    have hcolon := Style.colon_not_mem hblank
    rw [readText_of_not_mem hcolon hsemicolon, if_pos hblank, Style.pair?_of_not_mem hcolon]
    rfl
  | bare hblank hcolon => exact absurd (.inl ⟨hblank, hcolon⟩) h
  | pair name value hcolon =>
    rw [List.mem_append, List.mem_cons, not_or, not_or] at hsemicolon
    rw [readText_pair hcolon hsemicolon.1 hsemicolon.2.2, Style.pair?_pair hcolon]
    cases hvalue : allBlank value with
    | true => rfl
    | false =>
      have hname : allBlank name = false := Bool.eq_false_iff.mpr fun hname =>
        h (.inr ⟨name, value, rfl, hname, hvalue⟩)
      rw [hname]
      rfl

/-! ## The whole text -/

theorem readEach_of_refused (hds : ∀ d ∈ ds, ';' ∉ d) (hd : d ∈ ds) (h : Refused d) :
    ∃ fault, readEach room whole ds = .error fault := by
  induction ds with
  | nil => cases hd
  | cons e ds ih =>
    obtain ⟨he, hds⟩ := List.forall_mem_cons.mp hds
    rw [readEach]
    by_cases hrefused : Refused e
    · have hfail : ∃ fault, readText room whole e = .error fault := readText_of_refused he hrefused
      obtain ⟨fault, hfault⟩ := hfail
      rw [hfault]
      exact ⟨fault, rfl⟩
    · have hd : d ∈ ds := (List.mem_cons.mp hd).resolve_left fun hde => hrefused (hde ▸ h)
      obtain ⟨fault, hfault⟩ := ih hds hd
      rw [readText_of_not_refused he hrefused, ok_bind, hfault]
      exact ⟨fault, rfl⟩

theorem readEach_of_not_refused (hds : ∀ d ∈ ds, ';' ∉ d) (h : ∀ d ∈ ds, ¬ Refused d) :
    readEach room whole ds = .ok (plainEntries (ds.filterMap pair?)) := by
  induction ds with
  | nil => rfl
  | cons d ds ih =>
    obtain ⟨hd, hds⟩ := List.forall_mem_cons.mp hds
    obtain ⟨hrefused, h⟩ := List.forall_mem_cons.mp h
    rw [readEach, readText_of_not_refused hd hrefused, ok_bind, ih hds h, ok_bind,
      List.filterMap_cons]
    cases pair? d <;> rfl

/-- The key and the value that are written in an entry. -/
def writtenPair? (t : Text) : Option (Text × Text) := do
  let (key, rest) ← literal? t
  let rest ← after? ": ".toList rest
  let (value, rest) ← literal? rest
  if rest = [] then some (key, value) else none

theorem writtenPair?_print (key value : Text) :
    writtenPair? (StyleEntry.plain key value).print = some (key, value) := by
  have hvalue := literal?_stringLiteral value []
  rw [List.append_nil] at hvalue
  rw [StyleEntry.print, List.append_assoc]
  simp only [writtenPair?, literal?_asciiLiteral, after?_append, hvalue, Option.bind_eq_bind,
    Option.bind_some, if_true]

theorem map_writtenPair?_printAll (pairs : List (Text × Text)) :
    (StyleEntry.printAll (plainEntries pairs)).map writtenPair? = pairs.map some := by
  induction pairs with
  | nil => rfl
  | cons p pairs ih =>
    show writtenPair? (StyleEntry.plain p.1 p.2).print ::
      (StyleEntry.printAll (plainEntries pairs)).map writtenPair? = some p :: pairs.map some
    rw [writtenPair?_print, ih]

/-- The two ways of reading a literal text agree. In one go a declaration is refused that is not
blank and has no colon or no name; part by part one that is not blank and has no colon, or that has
a value and no name. Where the text is not refused in one go, the pairs that are written for it are
those of the mapping, each key once and with its last value. -/
theorem text_read_as_declared (room : Nat) (t : Text) :
    ((∃ fault, Style.declarations t = .error fault) ↔
      ∃ d ∈ splitOn ';' t, allBlank d = false ∧ (':' ∉ d ∨ Nameless d)) ∧
    ((∃ fault, readParts room [.text t] (.name []) [.text t] = .error fault) ↔
      ∃ d ∈ splitOn ';' t, allBlank d = false ∧ ':' ∉ d ∨
        ∃ name value, d = name ++ ':' :: value ∧ allBlank name = true ∧ allBlank value = false) ∧
    ∀ mapping, Style.declarations t = .ok mapping →
      ∃ es pairs, readParts room [.text t] (.name []) [.text t] = .ok es ∧
        (StyleEntry.printAll es).map writtenPair? = pairs.map some ∧ Merges pairs mapping := by
  have hpieces : ∀ d ∈ splitOn ';' t, ';' ∉ d := fun d hd => not_mem_of_mem_splitOn hd
  have hread : readParts room [.text t] (.name []) [.text t] =
      readEach room [.text t] (splitOn ';' t) := readText_eq_readEach t
  refine ⟨Style.declarations_fail_iff t, ⟨?_, ?_⟩, ?_⟩
  · rintro ⟨fault, hfault⟩
    apply Classical.byContradiction
    intro hnone
    rw [hread, readEach_of_not_refused hpieces fun d hd h => hnone ⟨d, hd, h⟩] at hfault
    cases hfault
  · rintro ⟨d, hd, h⟩
    rw [hread]
    exact readEach_of_refused hpieces hd h
  · intro mapping hmapping
    have hsound : ∀ d ∈ splitOn ';' t, ¬ Malformed d := by
      intro d hd h
      obtain ⟨fault, hfault⟩ := (Style.declarations_fail_iff t).mpr ⟨d, hd, h⟩
      rw [hmapping] at hfault
      cases hfault
    have hmerged : mapping = Style.putAll [] ((splitOn ';' t).filterMap pair?) := by
      have hok := Style.addDeclarations_of_sound hsound []
      rw [show Style.addDeclarations [] (splitOn ';' t) = .ok mapping from hmapping] at hok
      exact Except.ok.inj hok
    refine ⟨plainEntries ((splitOn ';' t).filterMap pair?), (splitOn ';' t).filterMap pair?, ?_, ?_,
      ?_⟩
    · rw [hread]
      exact readEach_of_not_refused hpieces fun d hd h => hsound d hd h.malformed
    · exact map_writtenPair?_printAll _
    · rw [hmerged]
      exact Style.merges_putAll _

/-- A key that is declared twice, a value with a colon and an empty declaration. -/
def repeated : Text := "color: red;; margin-top :0;color:a:b".toList

theorem text_read_as_declared_repeated :
    Style.declarations repeated =
        .ok [("color".toList, "a:b".toList), ("marginTop".toList, "0".toList)] ∧
      ∃ es pairs, readParts 0 [.text repeated] (.name []) [.text repeated] = .ok es ∧
        (StyleEntry.printAll es).map writtenPair? = pairs.map some ∧
        Merges pairs [("color".toList, "a:b".toList), ("marginTop".toList, "0".toList)] := by
  have hmapping : Style.declarations repeated =
      .ok [("color".toList, "a:b".toList), ("marginTop".toList, "0".toList)] :=
    eq_ok_of_toOption (by decide)
  exact ⟨hmapping, (text_read_as_declared 0 repeated).2.2 _ hmapping⟩

/-- Without a name and without a value. -/
example : (Style.declarations " : ".toList).toOption = none ∧
    (readParts 0 [] (.name []) [.text " : ".toList]).isOk = true := by decide

end Stencil.Lower
