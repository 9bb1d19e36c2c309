import Stencil.Event.Scan
import Stencil.Proofs.Event.Header
import Stencil.Proofs.Text.Mark

/-!
# Lexical classes

The texts that a token can hold when it comes from a template in which no line break is left, and
the directives among the tokens. A directive is written as `braced` around its `Token.body`. Reading
a body gives a directive (`isDirective_of_token`), and the body of a directive is read as that
directive (`token_body`), unless it is an iteration over a blank other than a space.
-/

namespace Stencil

open Text Directive

/-- What a directive holds: an expression, a test or statements. -/
structure IsSource (s : Text) : Prop where
  nonempty : s ≠ []
  trimmed : Trimmed s
  closed : ¬ ['}', '}'] <:+: s
  oneLine : '\n' ∉ s

/-- The iterable and the variables of an iteration. -/
structure IsHeader (iterable : Text) (b : Binder) : Prop where
  item : IsName b.item
  index : ∀ i ∈ b.index, IsName i
  shape : IsSource iterable ∨ ∃ x, isBlank x = true ∧ x ≠ '\n' ∧ iterable = [x] ∧ b.index = none
  whole : b.index = none → Whole iterable

/-- Literal text that `stop` ends. -/
structure IsRun (stop : Char) (v : Text) : Prop where
  nonempty : v ≠ []
  unstopped : stop ∉ v
  literal : ¬ ['{', '{'] <:+: v
  oneLine : '\n' ∉ v

/-- What a comment holds. -/
structure IsCommentText (v : Text) : Prop where
  closed : ¬ ['-', '-', '>'] <:+: v
  oneLine : '\n' ∉ v

/-- The name of a tag. -/
structure IsTagName (t : Text) : Prop where
  nonempty : t ≠ []
  chars : ∀ c ∈ t, Scan.isTagChar c = true
  noComment : ¬ ['!', '-', '-'] <+: t

/-- The name in a closing tag that is not dropped. -/
structure IsClosingName (t : Text) : Prop where
  nonempty : t ≠ []
  trimmed : Trimmed t
  closed : '>' ∉ t
  literal : ¬ ['{', '{'] <:+: t
  notVoid : isVoid t = false
  oneLine : '\n' ∉ t

/-- The name of an attribute. -/
structure IsAttributeName (t : Text) : Prop where
  nonempty : t ≠ []
  chars : ∀ c ∈ t, Scan.isAttributeChar c = true

/-- A source with a space on either side. -/
def spaced (s : Text) : Text := ' ' :: s ++ [' ']

namespace Token

/-- Whether a token is a directive. -/
def isDirective : Token → Bool
  | .encode _ | .interpolate _ | .evaluate _ | .openConditional _ | .elseIf _ | .otherwise
  | .closeConditional | .openIterator _ _ | .closeIterator => true
  | _ => false

/-- A directive that holds what it can hold. -/
def IsDirective : Token → Prop
  | .encode s | .interpolate s | .evaluate s | .openConditional s | .elseIf s => IsSource s
  | .openIterator iterable b => IsHeader iterable b
  | .otherwise | .closeConditional | .closeIterator => True
  | _ => False

/-- The body of a written directive. -/
def body : Token → Text
  | .encode s => '!' :: spaced s
  | .interpolate s => '=' :: spaced s
  | .evaluate s => spaced s
  | .openConditional s => '?' :: spaced s
  | .elseIf s => '?' :: '?' :: spaced s
  | .otherwise => ['?', '?']
  | .closeConditional => ['?']
  | .openIterator iterable b => '~' :: ' ' :: (iterable ++ bindingText b)
  | .closeIterator => ['~']
  | _ => []

theorem isDirective_of_IsDirective {t : Token} (h : t.IsDirective) : t.isDirective = true := by
  cases t <;> first | rfl | exact h.elim

end Token

theorem iteratorHeader_eq (iterable : Text) (b : Binder) :
    iteratorHeader iterable b = braced (Token.openIterator iterable b).body := by
  have h : ∀ front index : Text,
      "~ ".toList ++ iterable ++ " :".toList ++ front ++ index ++ [' '] =
        '~' :: ' ' :: (iterable ++ (" :".toList ++ front ++ index ++ [' '])) := by simp
  exact congrArg braced (h _ _)

/-! ## Names -/

theorem isTagChar_blank {c : Char} (h : Scan.isTagChar c = true) : isBlank c = false := by
  simp only [Scan.isTagChar, Bool.not_eq_true', Bool.or_eq_false_iff] at h
  exact h.1

theorem ne_of_isTagChar {c x : Char} (h : Scan.isTagChar c = true)
    (hx : Scan.isTagChar x = false) : c ≠ x := by
  rintro rfl
  rw [h] at hx
  cases hx

theorem isAttributeChar_blank {c : Char} (h : Scan.isAttributeChar c = true) :
    isBlank c = false := by
  simp only [Scan.isAttributeChar, Bool.or_eq_true, decide_eq_true_eq] at h
  rcases h with (h | rfl) | rfl
  · exact isBlank_of_isWord h
  · decide
  · decide

theorem trimmed_of_forall {t : Text} (h : ∀ c ∈ t, isBlank c = false) : Trimmed t :=
  ⟨fun c hc => h c (List.mem_of_head? hc), fun c hc => h c (List.mem_of_getLast? hc)⟩

theorem oneLine_of_forall {t : Text} (h : ∀ c ∈ t, isBlank c = false) : '\n' ∉ t := by
  intro hm
  exact absurd (h _ hm) (by decide)

theorem oneLine_name {n : Text} (h : IsName n) : '\n' ∉ n :=
  oneLine_of_forall fun c hc => isBlank_of_isNameChar (h.2 c hc)

theorem IsTagName.oneLine {t : Text} (h : IsTagName t) : '\n' ∉ t :=
  oneLine_of_forall fun c hc => isTagChar_blank (h.chars c hc)

theorem IsAttributeName.oneLine {t : Text} (h : IsAttributeName t) : '\n' ∉ t :=
  oneLine_of_forall fun c hc => isAttributeChar_blank (h.chars c hc)

theorem isSource_of_isName {n : Text} (h : IsName n) : IsSource n where
  nonempty := h.1
  trimmed := trimmed_of_forall fun c hc => isBlank_of_isNameChar (h.2 c hc)
  closed := not_double_infix_of_not_mem fun hm => absurd (h.2 _ hm) (by decide)
  oneLine := oneLine_name h

theorem IsTagName.isClosingName {t : Text} (h : IsTagName t) (hv : isVoid t = false) :
    IsClosingName t where
  nonempty := h.nonempty
  trimmed := trimmed_of_forall fun c hc => isTagChar_blank (h.chars c hc)
  closed := fun hm => ne_of_isTagChar (h.chars _ hm) (x := '>') (by decide) rfl
  literal := fun hi =>
    ne_of_isTagChar (h.chars '{' (hi.subset (by simp))) (x := '{') (by decide) rfl
  notVoid := hv
  oneLine := h.oneLine

/-! ## Reading a body -/

theorem whole_singleton (x : Char) : Whole [x] := by
  intro front a b n hf _ _ _ he
  have hlen := congrArg List.length he
  have hpos := List.length_pos_iff.mpr hf
  simp only [List.length_append, List.length_cons, List.length_nil] at hlen
  omega

theorem isSource_trim {s : Text} (hb : allBlank s = false) (hc : ¬ ['}', '}'] <:+: s)
    (hl : '\n' ∉ s) : IsSource (trim s) where
  nonempty := fun h => by
    rw [trim_eq_nil_iff.mp h] at hb
    cases hb
  trimmed := trimmed_trim s
  closed := fun h => hc (h.trans (infix_trim s))
  oneLine := fun h => hl ((infix_trim s).subset h)

theorem isDirective_of_iteration? {t : Text} {tok : Token} (h : iteration? t = some tok)
    (hc : ¬ ['}', '}'] <:+: t) (hl : '\n' ∉ t) : tok.IsDirective := by
  obtain ⟨a, ha, ht⟩ := exists_eq_append_trimStart t
  rw [iteration?] at h
  split at h
  · cases h
    trivial
  · next c cs hcs =>
    have hstart : ∀ x ∈ (c :: cs).head?, isBlank x = false := by
      rw [← hcs]
      exact head_trimStart t
    split at h
    · next iterable b hh =>
      cases h
      obtain ⟨hne, v, hv, hb, _⟩ := header?_sound hh
      have hin : iterable <:+: t := by
        rw [ht, hcs, hv]
        exact ⟨a, v, by simp⟩
      exact {
        item := hb.isName.1
        index := hb.isName.2
        shape := .inl ⟨hne, header?_trimmed hh hstart, fun hi => hc (hi.trans hin),
          fun hm => hl (hin.subset hm)⟩
        whole := fun hnone => by
          obtain ⟨n, i⟩ := b
          cases hnone
          exact header?_whole hh }
    · next hh =>
      split at h
      · next x b hx hb =>
        cases h
        have hmem : x ∈ t.takeWhile isBlank := List.mem_of_getLast? hx
        have hblank : isBlank x = true := List.all_eq_true.mp List.all_takeWhile x hmem
        have hbinds := binds_of_binder? hb
        exact {
          item := hbinds.isName.1
          index := hbinds.isName.2
          shape := .inr ⟨x, hblank, fun he => hl (he ▸ (List.takeWhile_sublist _).subset hmem),
            rfl, index_eq_none_of_header? hh hbinds⟩
          whole := fun _ => whole_singleton x }
      · cases h

theorem isDirective_of_token {body : Text} {tok : Token} (h : Directive.token body = .ok tok)
    (hc : ¬ ['}', '}'] <:+: body) (hl : '\n' ∉ body) : tok.IsDirective := by
  -- What follows the sigil is an end of the body.
  have hsource : ∀ (front : Text) {s : Text}, body = front ++ s → allBlank s = false →
      IsSource (trim s) := by
    rintro front s rfl hb
    exact isSource_trim hb (fun hi => hc (List.infix_append_of_infix_right hi))
      fun hm => hl (List.mem_append_right front hm)
  unfold Directive.token at h
  split at h
  · split at h
    · cases h
    · next hb =>
      cases h
      exact hsource ['='] rfl (by simpa using hb)
  · split at h
    · cases h
    · next hb =>
      cases h
      exact hsource ['!'] rfl (by simpa using hb)
  · split at h
    · cases h
      trivial
    · next hb =>
      cases h
      exact hsource ['?', '?'] rfl (by simpa using hb)
  · split at h
    · cases h
      trivial
    · next hb =>
      cases h
      exact hsource ['?'] rfl (by simpa using hb)
  · split at h
    · next tok' hi =>
      cases h
      exact isDirective_of_iteration? hi (fun hi => hc (List.infix_cons hi))
        fun hm => hl (List.mem_cons_of_mem _ hm)
    · cases h
  · split at h
    · cases h
    · next hb =>
      cases h
      exact hsource [] rfl (by simpa using hb)

/-! ## Reading a written directive -/

namespace Token

/-- Whether a token is an iteration over a blank that is not a space. -/
def IsOddBlank : Token → Prop
  | .openIterator iterable _ => allBlank iterable = true ∧ iterable ≠ [' ']
  | _ => False

end Token

@[simp] theorem getLast?_spaced (s : Text) : (spaced s).getLast? = some ' ' := by
  rw [spaced, List.getLast?_concat]

@[simp] theorem getLast?_bindingText (b : Binder) : (bindingText b).getLast? = some ' ' := by
  rw [bindingText, List.getLast?_concat]

theorem brace_not_mem_bindingText {b : Binder} (hi : IsName b.item)
    (hx : ∀ i ∈ b.index, IsName i) : '}' ∉ bindingText b := by
  have hname : ∀ {n : Text}, IsName n → '}' ∉ n := fun hn hm =>
    absurd (hn.2 _ hm) (by decide)
  obtain ⟨n, _ | m⟩ := b
  · rw [bindingText_item]
    simpa using hname hi
  · have hm : IsName m := hx m rfl
    rw [bindingText_index hm.1]
    simpa using ⟨hname hi, hname hm⟩

theorem not_double_infix_spaced {s : Text} (h : ¬ ['}', '}'] <:+: s) :
    ¬ ['}', '}'] <:+: spaced s := by
  rw [spaced, List.cons_append, double_infix_cons (by decide),
    double_infix_append_cons (by decide)]
  simpa using h

theorem IsHeader.closed {iterable : Text} {b : Binder} (h : IsHeader iterable b) :
    ¬ ['}', '}'] <:+: iterable := by
  rcases h.shape with hs | ⟨x, _, _, rfl, _⟩
  · exact hs.closed
  · exact fun hi => absurd hi.length_le (by simp)

theorem IsHeader.oneLine {iterable : Text} {b : Binder} (h : IsHeader iterable b) :
    '\n' ∉ iterable := by
  rcases h.shape with hs | ⟨x, _, hx, rfl, _⟩
  · exact hs.oneLine
  · simpa using Ne.symm hx

namespace Token

theorem not_double_infix_body {t : Token} (h : t.IsDirective) : ¬ ['}', '}'] <:+: t.body := by
  cases t with
  | encode | interpolate | openConditional =>
    rw [body, double_infix_cons (by decide)]
    exact not_double_infix_spaced h.closed
  | evaluate => exact not_double_infix_spaced h.closed
  | elseIf =>
    rw [body, double_infix_cons (by decide), double_infix_cons (by decide)]
    exact not_double_infix_spaced h.closed
  | openIterator iterable b =>
    obtain ⟨z, hz⟩ : ∃ z, bindingText b = ' ' :: z := ⟨_, rfl⟩
    have hb := brace_not_mem_bindingText h.item h.index
    rw [body, double_infix_cons (by decide), double_infix_cons (by decide), hz,
      double_infix_append_cons (by decide), not_or]
    rw [hz, List.mem_cons, not_or] at hb
    exact ⟨h.closed, not_double_infix_of_not_mem hb.2⟩
  | otherwise | closeConditional | closeIterator => exact not_double_infix_of_not_mem (by decide)
  | _ => exact h.elim

/-- The first closing braces behind the body of a directive are the ones that close it. -/
theorem cut?_body {t : Token} (h : t.IsDirective) (rest : Text) :
    cut? ['}', '}'] (t.body ++ ['}', '}'] ++ rest) = some (t.body, rest) := by
  refine cut?_append (by simp) ?_ rest
  refine not_double_infix_append (not_double_infix_body h) ?_ (by decide)
  cases t <;> first | exact h.elim | simp [body, List.getLast?_cons, List.getLast?_append]

end Token

theorem trim_spaced {s : Text} (h : Trimmed s) : trim (spaced s) = s := by
  have hs : allBlank [' '] = true := by decide
  rw [spaced, ← List.singleton_append, trim_surrounded hs h hs]

theorem allBlank_spaced {s : Text} (hne : s ≠ []) (h : Trimmed s) :
    allBlank (spaced s) = false := by
  rw [spaced, allBlank_append, allBlank_cons, allBlank_eq_false_of_trimmed hne h]
  rfl

theorem token_interpolate (s : Text) : Directive.token ('=' :: s) =
    if allBlank s then .error .emptyExpression else .ok (.interpolate (trim s)) := rfl

theorem token_encode (s : Text) : Directive.token ('!' :: s) =
    if allBlank s then .error .emptyExpression else .ok (.encode (trim s)) := rfl

theorem token_evaluate (s : Text) : Directive.token (spaced s) =
    if allBlank (spaced s) then .error .emptyDirective else .ok (.evaluate (trim (spaced s))) := rfl

theorem token_openConditional (s : Text) : Directive.token ('?' :: spaced s) =
    .ok (if allBlank (spaced s) then .closeConditional else .openConditional (trim (spaced s))) := rfl

theorem token_elseIf (s : Text) : Directive.token ('?' :: '?' :: s) =
    .ok (if allBlank s then .otherwise else .elseIf (trim s)) := rfl

theorem token_iteration {s : Text} {t : Token} (h : iteration? s = some t) :
    Directive.token ('~' :: s) = .ok t := by
  simp only [Directive.token, h]

/-- The body of a directive is read as that directive. -/
theorem token_body {t : Token} (h : t.IsDirective) (hodd : ¬ t.IsOddBlank) :
    Directive.token t.body = .ok t := by
  cases t with
  | encode s =>
    rw [Token.body, token_encode, allBlank_spaced h.nonempty h.trimmed, trim_spaced h.trimmed]
    rfl
  | interpolate s =>
    rw [Token.body, token_interpolate, allBlank_spaced h.nonempty h.trimmed, trim_spaced h.trimmed]
    rfl
  | evaluate s =>
    rw [Token.body, token_evaluate, allBlank_spaced h.nonempty h.trimmed, trim_spaced h.trimmed]
    rfl
  | openConditional s =>
    rw [Token.body, token_openConditional, allBlank_spaced h.nonempty h.trimmed,
      trim_spaced h.trimmed]
    rfl
  | elseIf s =>
    rw [Token.body, token_elseIf, allBlank_spaced h.nonempty h.trimmed, trim_spaced h.trimmed]
    rfl
  | openIterator iterable b =>
    refine token_iteration ?_
    rcases h.shape with hs | ⟨x, hx, _, rfl, hnone⟩
    · exact iteration?_whole hs.nonempty hs.trimmed h.item h.index h.whole
    · obtain ⟨n, i⟩ := b
      cases hnone
      have hspace : x = ' ' := by
        by_cases he : x = ' '
        · exact he
        · exact absurd ⟨by simp [hx], by simpa using he⟩ hodd
      subst hspace
      exact iteration?_blank hx h.item
  | otherwise | closeConditional | closeIterator => rfl
  | _ => exact h.elim

/-- An iteration over a blank other than a space is read as another iteration. -/
theorem token_body_oddBlank {t : Token} (h : t.IsDirective) (hodd : t.IsOddBlank) :
    ∃ t', t' ≠ t ∧ Directive.token t.body = .ok t' := by
  cases t with
  | openIterator iterable b =>
    obtain ⟨hblank, hne⟩ := hodd
    rcases h.shape with hs | ⟨x, hx, _, rfl, hnone⟩
    · rw [allBlank_eq_false_of_trimmed hs.nonempty hs.trimmed] at hblank
      cases hblank
    · obtain ⟨n, i⟩ := b
      cases hnone
      refine ⟨.openIterator [' '] ⟨n, none⟩, ?_, token_iteration (iteration?_blank hx h.item)⟩
      intro he
      injection he with he
      exact hne he.symm
  | _ => exact hodd.elim

end Stencil
