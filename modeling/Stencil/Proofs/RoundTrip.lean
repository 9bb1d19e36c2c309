import Stencil.Proofs.Node.Tidy
import Stencil.Proofs.Parse

/-!
# Round trip

When the written form of a tree is parsed to that tree. Line breaks do not stand in a written form,
so only the blanks at its ends are lost before it is scanned. It is parsed to its tree exactly if it
begins and ends without blanks and its tokens are settled (`parse_printAll_iff`). A document that is
put together with care has this property (`parse_printAll`), but not every parsed document has.
-/

namespace Stencil

open Text Node

/-! ## Line breaks -/

/-- No text of the token holds a line break. -/
def Token.OneLine : Token → Prop
  | .openTag s | .closeTag s | .openAttribute s | .text s | .comment s | .encode s
  | .interpolate s | .evaluate s | .openConditional s | .elseIf s => '\n' ∉ s
  | .openIterator iterable b => '\n' ∉ iterable ∧ '\n' ∉ b.item ∧ ∀ i ∈ b.index, '\n' ∉ i
  | .stopAttributes | .closeAttribute | .otherwise | .closeConditional | .closeIterator => True

theorem oneLine_directive {t : Token} (h : t.IsDirective) : t.OneLine := by
  cases t with
  | encode | interpolate | evaluate | openConditional | elseIf => exact h.oneLine
  | openIterator iterable b =>
    exact ⟨h.oneLine, oneLine_name h.item, fun i hi => oneLine_name (h.index i hi)⟩
  | otherwise | closeConditional | closeIterator => trivial
  | _ => exact h.elim

theorem oneLine_of_stream {z : Zone} {ts : List Token} (h : Stream z ts) (hn : z.Named) :
    ∀ t ∈ ts, t.OneLine := by
  induction h with
  | nil => nofun
  | directive ht _ ih => exact List.forall_mem_cons.mpr ⟨oneLine_directive ht, ih hn⟩
  | text hv _ ih | valueText hv _ ih => exact List.forall_mem_cons.mpr ⟨hv.oneLine, ih hn⟩
  | comment hv _ ih => exact List.forall_mem_cons.mpr ⟨hv.oneLine, ih hn⟩
  | openTag ht _ ih => exact List.forall_mem_cons.mpr ⟨ht.oneLine, ih ht⟩
  | closeTag ht _ ih => exact List.forall_mem_cons.mpr ⟨ht.oneLine, ih hn⟩
  | flag ha _ ih =>
    exact List.forall_mem_cons.mpr ⟨ha.oneLine, List.forall_mem_cons.mpr ⟨trivial, ih hn⟩⟩
  | emptyValue ha _ ih =>
    exact List.forall_mem_cons.mpr ⟨ha.oneLine, List.forall_mem_cons.mpr
      ⟨nofun, List.forall_mem_cons.mpr ⟨trivial, ih hn⟩⟩⟩
  | openValue ha _ _ ih => exact List.forall_mem_cons.mpr ⟨ha.oneLine, ih hn⟩
  | closeValue _ ih => exact List.forall_mem_cons.mpr ⟨trivial, ih hn⟩
  | stop _ _ ih => exact List.forall_mem_cons.mpr ⟨trivial, ih trivial⟩
  | stopClosed _ ih =>
    exact List.forall_mem_cons.mpr ⟨trivial, List.forall_mem_cons.mpr ⟨hn.oneLine, ih trivial⟩⟩

theorem oneLine_bindingText {b : Binder} (hitem : '\n' ∉ b.item)
    (hindex : ∀ i ∈ b.index, '\n' ∉ i) : '\n' ∉ Directive.bindingText b := by
  obtain ⟨n, _ | i⟩ := b
  · rw [Directive.bindingText_item]
    simpa using hitem
  · by_cases hi : i = []
    · subst hi
      simpa [Directive.bindingText, Binder.namedIndex?, Option.filter] using hitem
    · rw [Directive.bindingText_index hi]
      simpa using ⟨hitem, hindex i rfl⟩

theorem oneLine_body {t : Token} (h : t.OneLine) : '\n' ∉ t.body := by
  have hspaced : ∀ {s : Text}, '\n' ∉ s → '\n' ∉ spaced s := fun hs => by simpa [spaced] using hs
  cases t with
  | encode | interpolate | openConditional =>
    rw [Token.body, List.mem_cons, not_or]
    exact ⟨by decide, hspaced h⟩
  | evaluate => exact hspaced h
  | elseIf =>
    simp only [Token.body, List.mem_cons, not_or]
    exact ⟨by decide, by decide, hspaced h⟩
  | openIterator iterable b =>
    simp only [Token.body, List.mem_cons, List.mem_append, not_or]
    exact ⟨by decide, by decide, h.1, oneLine_bindingText h.2.1 h.2.2⟩
  | otherwise | closeConditional | closeIterator => decide
  | _ => exact List.not_mem_nil

theorem oneLine_spell {t : Token} (h : t.OneLine) (p : Pen) : '\n' ∉ p.spell t := by
  have hbraced : '\n' ∉ braced t.body := by
    simpa [braced] using oneLine_body h
  have hspace : ∀ (gap : Gap) (t : Token), '\n' ∉ gap.space t := by
    intro gap t
    rcases gap.space_cases t with hs | hs <;> rw [hs] <;> decide
  unfold Pen.spell
  split
  · exact h
  · simpa [Token.OneLine] using h
  · simpa [Token.OneLine] using h
  · simpa [Token.OneLine] using h
  · exact hbraced
  · split <;> decide
  · simpa using ⟨hspace _ _, h⟩
  · simpa using ⟨hspace _ _, hbraced⟩
  · exact List.not_mem_nil
  · simpa [Token.OneLine] using h
  · simpa using hbraced
  · exact h
  · decide
  · exact hbraced
  · exact List.not_mem_nil

theorem oneLine_write {ts : List Token} (h : ∀ t ∈ ts, t.OneLine) (p : Pen) :
    '\n' ∉ write p ts := by
  induction ts generalizing p with
  | nil => exact List.not_mem_nil
  | cons t ts ih =>
    obtain ⟨ht, hts⟩ := List.forall_mem_cons.mp h
    rw [write, List.mem_append, not_or]
    exact ⟨oneLine_spell ht p, ih hts _⟩

/-! ## Blanks at the beginning -/

/-- What a node other than text begins with. -/
theorem print_start {n : Node} (h : Placed .content n) :
    (∃ v, n = .text v) ∨
      ∃ c c' r, print n = c :: c' :: r ∧ Text.isBlank c = false ∧ (c = '<' → c' ≠ '/') := by
  have hbraces : Text.isBlank '{' = false := by decide
  cases n with
  | text v => exact .inl ⟨v, rfl⟩
  | comment v =>
    rw [print]
    exact .inr ⟨'<', '!', _, rfl, by decide, fun _ => by decide⟩
  | encoded | interpolated | evaluated | conditional =>
    rw [print]
    exact .inr ⟨'{', '{', _, rfl, hbraces, fun h => absurd h (by decide)⟩
  | iterator =>
    rw [print, iteratorHeader_eq]
    exact .inr ⟨'{', '{', _, rfl, hbraces, fun h => absurd h (by decide)⟩
  | element tag attributes children =>
    obtain ⟨-, ⟨hne, hchars, -⟩, -⟩ := h
    cases tag with
    | nil => exact absurd rfl hne
    | cons x tag =>
      have hx : x ≠ '/' := ne_of_isTagChar (hchars x List.mem_cons_self) (by decide)
      right
      rw [print]
      split
      · exact ⟨'<', x, _, rfl, by decide, fun _ => hx⟩
      · exact ⟨'<', x, _, rfl, by decide, fun _ => hx⟩
  | «attribute» | document | foreign => exact h.elim

/-- A written document does not begin with a closing tag. -/
theorem printAll_ne_closingTag {d : Document} (h : PlacedAll .content d) {a : Text}
    (ha : allBlank a = true) (r : Text) : printAll d ≠ a ++ '<' :: '/' :: r := by
  induction d generalizing a with
  | nil =>
    rw [printAll]
    simp
  | cons n ns ih =>
    rw [printAll]
    intro he
    rcases print_start h.1 with ⟨v, rfl⟩ | ⟨c, c', r', hp, hc, hslash⟩
    · rw [print] at he
      have hv : IsRun '<' v := h.1
      rcases List.append_eq_append_iff.mp he with ⟨a', rfl, hrest⟩ | ⟨v', rfl, hrest⟩
      · rw [allBlank_append, Bool.and_eq_true] at ha
        exact ih h.2 ha.2 hrest
      · cases v' with
        | nil => exact ih h.2 allBlank_nil hrest.symm
        | cons x v' =>
          injection hrest with hx
          subst hx
          exact hv.unstopped (by simp)
    · rw [hp] at he
      cases a with
      | nil =>
        injection he with he₁ he
        injection he with he₂
        exact hslash he₁ he₂
      | cons x a =>
        injection he with he₁
        rw [allBlank_cons, ← he₁, hc] at ha
        cases ha

/-- A text that is read first begins where the template does. -/
theorem head_of_read {x v : Text} {us : List Token}
    (h : Zone.content.read x = some (.text v :: us)) (hx : ∀ c ∈ x.head?, Text.isBlank c = false)
    (hslash : ¬ ['<', '/'] <+: x) : ∀ c ∈ v.head?, Text.isBlank c = false := by
  have hne : ∀ {ts : List Token}, some (.text v :: us) = some ts →
      (∃ t ts', ts = t :: ts' ∧ ∀ w, t ≠ .text w) → False := by
    rintro _ ⟨⟩ ⟨t, ts', he, hne⟩
    injection he with he
    exact hne v he.symm
  cases x with
  | nil => simp at h
  | cons c cs =>
    by_cases ho : ['{', '{'] <+: c :: cs
    · obtain ⟨r, he⟩ := ho
      rw [← he] at h
      exact (hne rfl (Zone.read_braces_ne_text h)).elim
    · by_cases hc : c = '<'
      · subst hc
        have hhead : cs.head? ≠ some '/' := by
          intro he
          obtain ⟨r, rfl⟩ := List.head?_eq_some_iff.mp he
          exact hslash ⟨r, rfl⟩
        exact (hne rfl (Zone.read_tag_ne_text hhead h)).elim
      · rw [Zone.read_cons, Zone.step_run (z := .content) rfl hc ho] at h
        obtain ⟨vs, -, he⟩ := Option.map_eq_some_iff.mp h
        injection he with he
        injection he with he
        subst he
        exact hx

/-! ## Parsing a written form -/

theorem stream_of_placed {d : Document} (h : PlacedAll .content d) :
    Stream .content (tokensAll d) := by
  have hs := stream_tokensAll h .nil
  rw [List.append_nil] at hs
  exact hs

/-- Only blanks at the ends of a written form are lost before it is scanned. -/
theorem parse_printAll_eq_ok_iff {d : Document} (h : PlacedAll .content d) :
    parse (printAll d) = .ok d ↔
      ∃ ts, Zone.content.read (trim (printAll d)) = some ts ∧ LinearAll d ts := by
  have hline : '\n' ∉ printAll d := by
    rw [printAll_eq_write h]
    exact oneLine_write (oneLine_of_stream (stream_of_placed h) trivial) _
  rw [parse_eq_ok_iff, collapseLineBreaks_of_oneLine hline]
  rfl

theorem not_closingTag_trim {d : Document} (h : PlacedAll .content d) :
    ¬ ['<', '/'] <+: trim (printAll d) := by
  rintro ⟨r, hr⟩
  obtain ⟨a, ha, hstart⟩ := exists_eq_append_trimStart (printAll d)
  obtain ⟨b, -, hend⟩ := exists_eq_trimEnd_append (trimStart (printAll d))
  refine printAll_ne_closingTag h ha (r ++ b) ?_
  rw [hstart, hend, show trimEnd (trimStart (printAll d)) = ['<', '/'] ++ r from hr.symm]
  rfl

/-- Blanks at the beginning of a written form are not read back. -/
theorem head_of_printAll {d : Document} {ts : List Token} (h : PlacedAll .content d)
    (hr : Zone.content.read (trim (printAll d)) = some ts) (hl : LinearAll d ts) :
    ∀ c ∈ (printAll d).head?, Text.isBlank c = false := by
  intro c hc
  cases hl with
  | nil =>
    rw [printAll] at hc
    cases hc
  | cons hn _ =>
    rw [printAll] at hc
    rcases print_start h.1 with ⟨v, rfl⟩ | ⟨c', c'', r, hp, hblank, -⟩
    · have hv : IsRun '<' v := h.1
      obtain ⟨x, v, rfl⟩ := List.exists_cons_of_ne_nil hv.nonempty
      rw [print] at hc
      cases hc
      cases hn
      exact head_of_read hr (trimmed_trim _).1 (not_closingTag_trim h) _ rfl
    · rw [hp] at hc
      cases hc
      exact hblank

/-- The written form of a placed document is parsed to it exactly if it has no blanks at its ends
and nothing in it runs together. -/
theorem parse_printAll_placed {d : Document} (h : PlacedAll .content d) :
    parse (printAll d) = .ok d ↔
      trim (printAll d) = printAll d ∧ Token.Settled (tokensAll d) := by
  have hlinear := linearAll_tokensAll h
  have hreread : Reread .content (printAll d) (tokensAll d) := by
    rw [printAll_eq_write h]
    exact reread_write (stream_of_placed h) trivial rfl
  rw [parse_printAll_eq_ok_iff h]
  constructor
  · rintro ⟨ts, hr, hl⟩
    have hstart := trimStart_of_head (head_of_printAll h hr hl)
    obtain ⟨w, hw, hend⟩ := exists_eq_trimEnd_append (printAll d)
    have htrim : trim (printAll d) = trimEnd (printAll d) := by rw [trim, hstart]
    rw [← htrim] at hend
    have hkept : w = [] ∧ Token.Settled (tokensAll d) :=
      Classical.byContradiction fun hnot =>
        hlinear.not_clash hl (hreread.unsettled _ w ts hend hw hnot hr)
    refine ⟨?_, hkept.2⟩
    rw [hkept.1, List.append_nil] at hend
    exact hend.symm
  · rintro ⟨htrim, hsettled⟩
    rw [htrim]
    exact ⟨_, hreread.settled hsettled, hlinear⟩

/-! ## Round trip -/

/-- A document that is put together so that its written form says the same. -/
structure WellFormed (d : Document) : Prop where
  placed : PlacedAll .content d
  tidy : TidyAll false d
  trimmed : trim (printAll d) = printAll d

/-- The written form of a well-formed document is parsed to it. -/
theorem parse_printAll {d : Document} (h : WellFormed d) : parse (printAll d) = .ok d := by
  have hsettled : Token.Settled (tokensAll d ++ []) :=
    settled_tokensAll h.placed h.tidy trivial nofun
  rw [List.append_nil] at hsettled
  exact (parse_printAll_placed h.placed).mpr ⟨h.trimmed, hsettled⟩

/-- A mixed value, an else-if in a tag, and a brace before a closing tag. -/
theorem parse_printAll_mixed :
    parse (printAll [.element ['p']
        [.attribute ['a'] [.text ['x'], .encoded ['y']],
          .conditional ['t'] [.attribute ['b'] []]
            (some [.conditional ['u'] [.attribute ['c'] [.text []]] none])]
        [.iterator ['m'] ⟨['i'], none⟩ [.element "br".toList [] []], .text ['{']]]) =
      .ok [.element ['p']
        [.attribute ['a'] [.text ['x'], .encoded ['y']],
          .conditional ['t'] [.attribute ['b'] []]
            (some [.conditional ['u'] [.attribute ['c'] [.text []]] none])]
        [.iterator ['m'] ⟨['i'], none⟩ [.element "br".toList [] []], .text ['{']]] := by
  have hsource (c : Char) (hc : Directive.isNameChar c = true) : IsSource [c] :=
    isSource_of_isName ⟨nofun, List.forall_mem_singleton.mpr hc⟩
  have hy := hsource 'y' (by decide +kernel)
  have ht := hsource 't' (by decide +kernel)
  have hu := hsource 'u' (by decide +kernel)
  have hm := hsource 'm' (by decide +kernel)
  have hname (c : Char) (hc : Scan.isAttributeChar c = true) : IsAttributeName [c] :=
    ⟨nofun, List.forall_mem_singleton.mpr hc⟩
  have ha := hname 'a' (by decide +kernel)
  have hb := hname 'b' (by decide +kernel)
  have hc := hname 'c' (by decide +kernel)
  have htag : IsTagName ['p'] ∧ IsTagName "br".toList :=
    ⟨⟨nofun, List.all_eq_true.mp (by decide), by decide⟩,
      ⟨nofun, List.all_eq_true.mp (by decide), by decide⟩⟩
  have hrun : IsRun '\x22' ['x'] ∧ IsRun '<' ['{'] :=
    ⟨⟨nofun, by decide, not_double_infix_of_not_mem (by decide), by decide⟩,
      ⟨nofun, by decide, fun h => absurd h.length_le (by decide), by decide⟩⟩
  have hheader : IsHeader ['m'] ⟨['i'], none⟩ :=
    ⟨⟨nofun, List.forall_mem_singleton.mpr (by decide +kernel)⟩, nofun, .inl hm,
      fun _ => whole_singleton 'm'⟩
  refine parse_printAll ⟨⟨⟨rfl, htag.1, ⟨?_, ?_, trivial⟩, ⟨?_, hrun.2, trivial⟩, by decide⟩,
    trivial⟩, ?_, by decide +kernel⟩
  · exact ⟨ha, .inr ⟨hrun.1, hy, trivial⟩⟩
  · exact ⟨ht, ⟨⟨hb, .inr trivial⟩, trivial⟩, ⟨hu, ⟨⟨hc, .inl rfl⟩, trivial⟩, trivial⟩, trivial⟩
  · exact ⟨hheader, ⟨rfl, htag.2, trivial, trivial, fun _ => rfl⟩, trivial⟩
  · simp [TidyAll, Tidy, TidyBranch, Apart, isText, isDirective, allBlank,
      show Text.isBlank 'm' = false by decide]

/-- The written form of a parsed document is parsed to it exactly if no blanks stand at its ends and
nothing in it runs together. -/
theorem parse_printAll_iff {t : Text} {d : Document} (h : parse t = .ok d) :
    parse (printAll d) = .ok d ↔
      trim (printAll d) = printAll d ∧ Token.Settled (tokensAll d) :=
  parse_printAll_placed (placed_of_parse h)

/-- The closing tag of a void element leaves two texts that are written as one. -/
theorem parse_printAll_split_text :
    parse "a</br>b".toList = .ok [.text ['a'], .text ['b']] ∧
      parse (printAll [.text ['a'], .text ['b']]) ≠ .ok [.text ['a'], .text ['b']] := by
  have h : parse "a</br>b".toList = .ok [.text ['a'], .text ['b']] := by cbv
  refine ⟨h, fun hp => ?_⟩
  obtain ⟨-, -, hsep, -⟩ := (parse_printAll_iff h).mp hp
  exact absurd (hsep _ rfl) (by decide)

end Stencil
