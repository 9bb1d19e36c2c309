import Stencil.Proofs.Lower.Expansion
import Stencil.Proofs.Lower.Semicolon

/-!
# Composed literals read back

A template literal is scanned character by character. A backslash gives the character after it,
which has to be one that is escaped, a dollar sign before a brace begins a source that ends at the
next closing brace, and the first back quote that is not escaped ends the literal. What is composed
of texts and expressions is read back as these texts and expressions, up to its last character, if
and only if no expression has a closing brace (`composed_literal_reads_back_iff`).
-/

namespace Stencil

namespace Jsx

open Text (after? after?_append cut? cut?_char)
open Stencil.Jsx.Symbol

/-! ## Scanning -/

/-- What comes next in a template literal, a symbol or else its end, and what follows it. -/
def nextSymbol? : Text → Option (Option Symbol × Text)
  | [] => none
  | c :: rest =>
    if c = '\x60' then some (none, rest)
    else if c = '\\' then
      match rest with
      | [] => none
      | d :: rest =>
        if d = '\\' || d = '\x60' || d = '$' then some (some (.char d), rest) else none
    else
      match after? ['$', '{'] (c :: rest) with
      | none => some (some (.char c), rest)
      | some rest => (cut? ['}'] rest).map fun p => (some (.source p.1), p.2)

theorem length_nextSymbol? {t rest : Text} {s : Option Symbol}
    (h : nextSymbol? t = some (s, rest)) : rest.length < t.length := by
  unfold nextSymbol? at h
  split at h
  · cases h
  · split at h
    · cases h
      exact Nat.lt_succ_self _
    · split at h
      · split at h
        · cases h
        · split at h
          · cases h
            simp only [List.length_cons]
            omega
          · cases h
      · split at h
        · cases h
          exact Nat.lt_succ_self _
        next hafter =>
          obtain ⟨p, hcut, hp⟩ := Option.map_eq_some_iff.mp h
          cases hp
          have hopen := Text.length_after? hafter
          have hlength := congrArg List.length (Text.cut?_sound (List.cons_ne_nil _ _) hcut).1
          simp only [List.length_append, List.length_singleton] at hlength
          omega

/-- The symbols of a template literal, given what follows its opening back quote, and what follows
its closing one. -/
def template? (t : Text) : Option (List Symbol × Text) :=
  match h : nextSymbol? t with
  | none => none
  | some (none, rest) => some ([], rest)
  | some (some s, rest) =>
    have := length_nextSymbol? h
    (template? rest).map fun p => (s :: p.1, p.2)
termination_by t.length

/-- A text before segments. It is one text with the text that stands first. -/
def addText (t : Text) : List Segment → List Segment
  | .text u :: ss => .text (t ++ u) :: ss
  | ss => .text t :: ss

/-- The segments that symbols make: each source by itself, and the characters between sources as one
text. -/
def gather : List Symbol → List Segment
  | [] => []
  | .source code :: ss => .hole code :: gather ss
  | .char c :: ss => addText [c] (gather ss)

/-- The segments of a template literal, and what follows it. -/
def scanLiteral? : Text → Option (List Segment × Text)
  | '\x60' :: t => (template? t).map fun p => (gather p.1, p.2)
  | _ => none

/-! ## Scanning rules -/

/-- Symbols before those that have been read. -/
def prepend (ss : List Symbol) (read : Option (List Symbol × Text)) :
    Option (List Symbol × Text) :=
  read.map fun p => (ss ++ p.1, p.2)

theorem prepend_nil (read : Option (List Symbol × Text)) : prepend [] read = read := by
  cases read <;> rfl

theorem prepend_cons (s : Symbol) (ss : List Symbol) (read : Option (List Symbol × Text)) :
    prepend [s] (prepend ss read) = prepend (s :: ss) read := by
  cases read <;> rfl

variable {t u rest : Text} {c d : Char} {s : Symbol} {ss : List Symbol}

theorem template?_of_next {next : Option Symbol} (h : nextSymbol? t = some (next, rest)) :
    template? t = next.elim (some ([], rest)) fun s => prepend [s] (template? rest) := by
  rw [template?]
  split
  next hnone =>
    rw [hnone] at h
    cases h
  next hend =>
    rw [hend] at h
    cases h
    rfl
  next hsome =>
    rw [hsome] at h
    cases h
    rfl

theorem template?_of_symbol (h : nextSymbol? t = some (some s, rest)) :
    template? t = prepend [s] (template? rest) := template?_of_next h

theorem template?_quote (rest : Text) : template? ('\x60' :: rest) = some ([], rest) :=
  have hnext : nextSymbol? ('\x60' :: rest) = some (none, rest) := rfl
  template?_of_next hnext

theorem template?_escaped (hd : d = '\\' ∨ d = '\x60' ∨ d = '$') (t : Text) :
    template? ('\\' :: d :: t) = prepend [.char d] (template? t) := by
  refine template?_of_symbol ?_
  show (if _ then _ else _) = _
  rw [if_pos (by simpa [or_assoc] using hd)]

theorem template?_char (hquote : c ≠ '\x60') (hslash : c ≠ '\\')
    (hdollar : c = '$' → t.head? ≠ some '{') :
    template? (c :: t) = prepend [.char c] (template? t) := by
  have hafter : after? ['$', '{'] (c :: t) = none := by
    by_cases hc : c = '$'
    · have hhead := hdollar hc
      cases t with
      | nil => simp [after?]
      | cons d t =>
        have hd : '{' ≠ d := fun hd => hhead (by rw [hd]; rfl)
        simp [after?, hd]
    · exact Text.after?_cons_of_ne (Ne.symm hc) _ _
  refine template?_of_symbol ?_
  show (if _ then _ else if _ then _ else _) = _
  rw [if_neg hquote, if_neg hslash, hafter]

/-- A source is read up to its first closing brace. -/
theorem template?_insertion {code : Text} (h : '}' ∉ code) (t : Text) :
    template? ('$' :: '{' :: code ++ '}' :: t) = prepend [.source code] (template? t) := by
  refine template?_of_symbol ?_
  show (cut? ['}'] (code ++ '}' :: t)).map _ = _
  rw [cut?_char h]
  rfl

/-- The symbols spell a text that is read as `t` before what `u` is read as. -/
def ReadsText (u t : Text) (us : List Symbol) : Prop :=
  us = chars (spell us) ∧ template? (spell us) = prepend (chars t) (template? u)

theorem readsText_escaped {us : List Symbol} (hd : d = '\\' ∨ d = '\x60' ∨ d = '$')
    (h : ReadsText u t us) : ReadsText u (d :: t) (.char '\\' :: .char d :: us) := by
  refine ⟨congrArg (fun us => Symbol.char '\\' :: .char d :: us) h.1, ?_⟩
  rw [spell_char, spell_char, template?_escaped hd, h.2, prepend_cons]
  rfl

theorem readsText_char {us : List Symbol} (hquote : c ≠ '\x60') (hslash : c ≠ '\\')
    (hdollar : c = '$' → us.head? ≠ some (.char '{')) (h : ReadsText u t us) :
    ReadsText u (c :: t) (.char c :: us) := by
  have hhead : c = '$' → (spell us).head? ≠ some '{' := by
    intro hc hhead
    refine hdollar hc ?_
    rw [h.1, chars, List.head?_map, hhead]
    rfl
  refine ⟨congrArg (Symbol.char c :: ·) h.1, ?_⟩
  rw [spell_char, template?_char hquote hslash hhead, h.2, prepend_cons]
  rfl

/-- Escaped text is read as the text, unless a brace completes a dollar sign at its end. -/
theorem template?_text (ht : t.getLast? = some '$' → u.head? ≠ some '{') :
    template? (escapeLiteral t ++ u) = prepend (chars t) (template? u) := by
  have hend : ReadsText u [] (chars u) := by
    rw [ReadsText, spell_chars]
    exact ⟨rfl, (prepend_nil _).symm⟩
  have hborder : t.getLast? = some '$' → (chars u).head? ≠ some (.char '{') := by
    intro hlast hhead
    rw [chars, List.head?_map] at hhead
    obtain ⟨c, hc, hchar⟩ := Option.map_eq_some_iff.mp hhead
    exact ht hlast (by rw [hc, Symbol.char.inj hchar])
  have hread : ReadsText u t (chars (escapeLiteral t) ++ chars u) :=
    escaped_text (P := ReadsText u) hend readsText_escaped readsText_char hborder
  rw [ReadsText, spell_append, spell_chars, spell_chars] at hread
  exact hread.2

/-! ## Gathered segments -/

theorem addText_addText (t u : Text) (ss : List Segment) :
    addText t (addText u ss) = addText (t ++ u) ss := by
  cases ss with
  | nil => rfl
  | cons s ss =>
    cases s with
    | text v => exact congrArg (fun t => Segment.text t :: ss) (List.append_assoc t u v).symm
    | hole | choice | each => rfl

theorem gather_chars (ht : t ≠ []) (ss : List Symbol) :
    gather (chars t ++ ss) = addText t (gather ss) := by
  induction t with
  | nil => exact absurd rfl ht
  | cons c t ih =>
    show addText [c] (gather (chars t ++ ss)) = _
    cases t with
    | nil => rfl
    | cons d t => rw [ih (List.cons_ne_nil _ _), addText_addText, List.singleton_append]

/-- Texts that are gathered are not empty. -/
theorem gather_ne_empty (ss : List Symbol) (rest : List Segment) :
    gather ss ≠ .text [] :: rest := by
  cases ss with
  | nil => exact nofun
  | cons s ss =>
    cases s with
    | source code => exact nofun
    | char c =>
      show addText [c] (gather ss) ≠ _
      unfold addText
      split <;> exact nofun

/-- A whole text is followed by no more text. -/
theorem gather_of_addText {rest : List Segment} (h : addText t (gather ss) = .text t :: rest) :
    gather ss = rest := by
  cases hss : gather ss with
  | nil =>
    rw [hss] at h
    exact (List.cons.inj h).2
  | cons s more =>
    rw [hss] at h
    cases s with
    | text u =>
      have htu : t ++ u = t := Segment.text.inj (List.cons.inj h).1
      rw [List.append_right_eq_self.mp htu] at hss
      exact absurd hss (gather_ne_empty ss more)
    | hole | choice | each => exact (List.cons.inj h).2

end Jsx

namespace Lower

open Jsx Node
open Stencil.Jsx.Symbol (chars)

/-! ## Composed values -/

/-- Texts and expressions of an attribute value. No text stands next to another. -/
inductive Composed : List Node → Prop where
  | nil : Composed []
  | text (t : Text) {ns : List Node} (h : Composed ns) (hnext : ns.head?.any Node.isText = false) :
      Composed (.text t :: ns)
  | encoded (source : Text) {ns : List Node} (h : Composed ns) : Composed (.encoded source :: ns)
  | interpolated (source : Text) {ns : List Node} (h : Composed ns) :
      Composed (.interpolated source :: ns)

/-- A text that is not empty, or the source of an expression. -/
def piece? : Node → Option Segment
  | .text t => if t = [] then none else some (.text t)
  | .encoded source | .interpolated source => some (.hole source)
  | _ => none

/-- The segment of a text or an expression. -/
def segmentsIn : Node → List Segment
  | .text t => [.text t]
  | .encoded source | .interpolated source => [.hole source]
  | _ => []

/-- What a text or an expression is scanned as. -/
def symbolsIn : Node → List Symbol
  | .text t => chars t
  | .encoded source | .interpolated source => [.source source]
  | _ => []

variable {ns : List Node}

theorem segments_composed (room : Nat) (h : Composed ns) :
    segments room ns = .ok (ns.flatMap segmentsIn) := by
  induction h with
  | nil => rfl
  | text _ _ _ ih | encoded _ _ ih | interpolated _ _ ih =>
    rw [segments, ih]
    rfl

/-- The inside of the literal with its closing back quote. -/
def inside (ns : List Node) (rest : Text) : Text :=
  Segment.printAll (ns.flatMap segmentsIn) ++ '\x60' :: rest

theorem head?_inside (h : Composed ns) (hnext : ns.head?.any Node.isText = false) (rest : Text) :
    (inside ns rest).head? ≠ some '{' := by
  cases h with
  | nil | encoded | interpolated => exact nofun
  | text => cases hnext

theorem template?_inside_text {t rest : Text} (h : Composed ns)
    (hnext : ns.head?.any Node.isText = false) :
    template? (inside (.text t :: ns) rest) = prepend (chars t) (template? (inside ns rest)) := by
  show template? (escapeLiteral t ++ _ ++ _) = _
  rw [List.append_assoc]
  exact template?_text fun _ => head?_inside h hnext rest

theorem inside_source (source : Text) (ns : List Node) (rest : Text) :
    inside (.encoded source :: ns) rest = '$' :: '{' :: source ++ '}' :: inside ns rest := by
  show '$' :: '{' :: source ++ ['}'] ++ Segment.printAll (ns.flatMap segmentsIn) ++ _ = _
  simp only [inside, List.append_assoc, List.cons_append, List.nil_append]

/-- Without closing braces in the sources, the literal ends where it was ended. -/
theorem template?_inside (h : Composed ns) (hbrace : ∀ source ∈ sourcesAll ns, '}' ∉ source)
    (rest : Text) : template? (inside ns rest) = some (ns.flatMap symbolsIn, rest) := by
  induction h with
  | nil => exact template?_quote rest
  | text t h hnext ih =>
    rw [template?_inside_text h hnext, ih hbrace]
    rfl
  | @encoded source ns h ih | @interpolated source ns h ih =>
    obtain ⟨hsource, hns⟩ := List.forall_mem_cons.mp hbrace
    show template? (inside (.encoded source :: ns) rest) = _
    rw [inside_source, template?_insertion hsource, ih hns]
    rfl

/-- A text before what does not begin with a text stays by itself. -/
theorem addText_pieces (h : Composed ns) (hnext : ns.head?.any Node.isText = false) (t : Text) :
    addText t (ns.filterMap piece?) = .text t :: ns.filterMap piece? := by
  cases h with
  | nil | encoded | interpolated => rfl
  | text => cases hnext

theorem gather_symbols (h : Composed ns) :
    gather (ns.flatMap symbolsIn) = ns.filterMap piece? := by
  induction h with
  | nil => rfl
  | @text t ns h hnext ih =>
    rw [List.flatMap_cons, List.filterMap_cons, symbolsIn, piece?]
    by_cases ht : t = []
    · rw [if_pos ht, ht]
      exact ih
    · rw [if_neg ht, gather_chars ht, ih, addText_pieces h hnext]
  | @encoded source ns h ih | @interpolated source ns h ih =>
    show Segment.hole source :: gather (ns.flatMap symbolsIn) = .hole source :: _
    rw [ih]

/-- A source with a closing brace is cut short. -/
theorem brace_not_mem_of_source {source t after : Text} {ss : List Symbol} {later : List Segment}
    (hread : template? ('$' :: '{' :: source ++ '}' :: t) = some (ss, after))
    (hgather : gather ss = .hole source :: later) : '}' ∉ source := by
  intro hbrace
  obtain ⟨u, v, rfl, hu⟩ := List.eq_append_cons_of_mem hbrace
  have hshape : '$' :: '{' :: (u ++ '}' :: v) ++ '}' :: t =
      '$' :: '{' :: u ++ '}' :: (v ++ '}' :: t) := by
    simp only [List.cons_append, List.append_assoc]
  rw [hshape, template?_insertion hu] at hread
  obtain ⟨more, -, hss⟩ := Option.map_eq_some_iff.mp hread
  rw [← (Prod.mk.inj hss).1] at hgather
  have hcut : u = u ++ '}' :: v := Segment.hole.inj (List.cons.inj hgather).1
  exact absurd (List.append_right_eq_self.mp hcut.symm) (List.cons_ne_nil _ _)

/-- What reads back has no closing brace in its sources. -/
theorem brace_not_mem_of_template? (h : Composed ns) {rest after : Text} {ss : List Symbol}
    (hread : template? (inside ns rest) = some (ss, after))
    (hgather : gather ss = ns.filterMap piece?) : ∀ source ∈ sourcesAll ns, '}' ∉ source := by
  induction h generalizing ss with
  | nil => exact List.forall_mem_nil _
  | @text t ns h hnext ih =>
    rw [template?_inside_text h hnext] at hread
    obtain ⟨⟨more, ending⟩, hmore, hss⟩ := Option.map_eq_some_iff.mp hread
    obtain ⟨rfl, rfl⟩ := Prod.mk.inj hss
    refine ih hmore ?_
    rw [List.filterMap_cons, piece?] at hgather
    by_cases ht : t = []
    · rw [if_pos ht, ht] at hgather
      exact hgather
    · rw [if_neg ht, gather_chars ht] at hgather
      exact gather_of_addText hgather
  | @encoded source ns h ih | @interpolated source ns h ih =>
    have hread : template? (inside (.encoded source :: ns) rest) = some (ss, after) := hread
    have hgather : gather ss = .hole source :: ns.filterMap piece? := hgather
    rw [inside_source] at hread
    have hsource := brace_not_mem_of_source hread hgather
    rw [template?_insertion hsource] at hread
    obtain ⟨more, hmore, hss⟩ := Option.map_eq_some_iff.mp hread
    obtain ⟨rfl, rfl⟩ := Prod.mk.inj hss
    exact List.forall_mem_cons.mpr ⟨hsource, ih hmore (List.cons.inj hgather).2⟩

/-- A literal that is composed of texts and expressions is read back, up to its last character, as
the texts that are not empty and the expressions, if and only if no expression has a closing
brace. -/
theorem composed_literal_reads_back_iff (room : Nat) {parts : List Node} (h : Composed parts) :
    ∃ ss, segments room parts = .ok ss ∧
      (scanLiteral? (literal ss) = some (parts.filterMap piece?, []) ↔
        ∀ source ∈ sourcesAll parts, '}' ∉ source) := by
  have hscan : scanLiteral? (literal (parts.flatMap segmentsIn)) =
      (template? (inside parts [])).map fun p => (gather p.1, p.2) := rfl
  refine ⟨parts.flatMap segmentsIn, segments_composed room h, ?_⟩
  rw [hscan]
  constructor
  · intro hread
    obtain ⟨⟨ss, after⟩, hss, hgather⟩ := Option.map_eq_some_iff.mp hread
    exact brace_not_mem_of_template? h hss (Prod.mk.inj hgather).1
  · intro hbrace
    rw [template?_inside h hbrace, Option.map_some, gather_symbols h]

/-- Characters that have to be escaped, at the borders of expressions too. -/
def borders : List Node :=
  [.text "$\\".toList, .encoded "it.a".toList, .text "\x7b\x60$\x7b\\\x60$".toList,
    .interpolated "it.b".toList, .encoded [], .text [], .encoded "c".toList]

theorem composed_literal_reads_back_borders :
    Composed borders ∧ (∀ source ∈ sourcesAll borders, '}' ∉ source) ∧
      ∃ ss, segments 0 borders = .ok ss ∧
        scanLiteral? (literal ss) = some
          ([.text "$\\".toList, .hole "it.a".toList, .text "\x7b\x60$\x7b\\\x60$".toList,
            .hole "it.b".toList, .hole [], .hole "c".toList], []) := by
  have hcomposed : Composed borders :=
    .text _ (.encoded _ (.text _ (.interpolated _ (.encoded _ (.text _ (.encoded _ .nil) rfl))) rfl))
      rfl
  have hbrace : ∀ source ∈ sourcesAll borders, '}' ∉ source := by decide
  obtain ⟨ss, hss, hread⟩ := composed_literal_reads_back_iff 0 hcomposed
  exact ⟨hcomposed, hbrace, ss, hss, hread.mpr hbrace⟩

end Lower

end Stencil
