import Stencil.Proofs.Event.Stream

/-!
# Reading what is written

One rule for each piece of a written template: what the scanner takes when the piece stands before
`rest`, and what `rest` must not begin with. A run of text is the piece that depends most on what
follows it: it ends where it should exactly if `RunEnds` holds.
-/

namespace Stencil

open Text

/-! ## Runs of text -/

/-- The run `v` of text is not continued by what follows, and is not cut short by it. -/
def RunEnds (stop : Char) (v rest : Text) : Prop :=
  rest = [] ∨ rest.head? = some stop ∨ (['{', '{'] <+: rest ∧ v.getLast? ≠ some '{')

theorem literalRun_eq_nil_iff {stop : Char} {t : Text} :
    Scan.literalRun stop t = [] ↔ t = [] ∨ t.head? = some stop ∨ ['{', '{'] <+: t := by
  cases t with
  | nil => simp [Scan.literalRun]
  | cons c t =>
    rw [Scan.literalRun, ← opensDirective_iff]
    by_cases hc : c = stop <;> cases Scan.opensDirective (c :: t) <;> simp [hc]

theorem double_prefix_cons {a c : Char} {t : Text} :
    [a, a] <+: c :: t ↔ c = a ∧ t.head? = some a := by
  cases t with
  | nil => simp
  | cons d t =>
    simp only [List.cons_prefix_cons, List.nil_prefix, and_true, List.head?_cons, Option.some.injEq]
    constructor
    · rintro ⟨rfl, rfl⟩
      exact ⟨rfl, rfl⟩
    · rintro ⟨rfl, rfl⟩
      exact ⟨rfl, rfl⟩

theorem literalRun_append_iff {stop : Char} {v rest : Text} (hs : stop ∉ v)
    (hd : ¬ ['{', '{'] <:+: v) : Scan.literalRun stop (v ++ rest) = v ↔ RunEnds stop v rest := by
  induction v with
  | nil =>
    rw [List.nil_append, literalRun_eq_nil_iff, RunEnds]
    simp
  | cons c v ih =>
    rw [List.mem_cons, not_or] at hs
    rw [List.infix_cons_iff, not_or] at hd
    have ih := ih hs.2 hd.2
    rw [List.cons_append, Scan.literalRun]
    by_cases ho : ['{', '{'] <+: c :: (v ++ rest)
    · -- The braces are the last character of the run and the first one behind it.
      rw [opensDirective_iff.mpr ho, Bool.or_true, if_pos rfl]
      obtain ⟨rfl, hr⟩ := double_prefix_cons.mp ho
      have hv : v = [] := by
        cases v with
        | nil => rfl
        | cons d v =>
          rw [List.cons_append, List.head?_cons, Option.some.injEq] at hr
          subst hr
          exact absurd (double_prefix_cons.mpr ⟨rfl, rfl⟩) hd.1
      subst hv
      rw [List.nil_append] at hr
      refine ⟨fun h => absurd h.symm (List.cons_ne_nil _ _), ?_⟩
      rintro (rfl | h | ⟨-, h⟩)
      · cases hr
      · rw [hr, Option.some.injEq] at h
        exact absurd h.symm hs.1
      · exact absurd rfl h
    · have hof : Scan.opensDirective (c :: (v ++ rest)) = false := by
        rw [← Bool.not_eq_true, opensDirective_iff]
        exact ho
      rw [hof, Bool.or_false, if_neg (by simpa using Ne.symm hs.1), List.cons.injEq,
        and_iff_right rfl, ih]
      cases v with
      | cons d v => simp only [RunEnds, List.getLast?_cons_cons]
      | nil =>
        have hlast : ['{', '{'] <+: rest → c ≠ '{' := by
          rintro ⟨r, rfl⟩ rfl
          exact ho ⟨_, rfl⟩
        simp only [RunEnds, List.getLast?_nil, List.getLast?_singleton, ne_eq, Option.some.injEq]
        constructor
        · rintro (h | h | ⟨h, _⟩)
          · exact .inl h
          · exact .inr (.inl h)
          · exact .inr (.inr ⟨h, hlast h⟩)
        · rintro (h | h | ⟨h, _⟩)
          · exact .inl h
          · exact .inr (.inl h)
          · exact .inr (.inr ⟨h, by simp⟩)

namespace Zone

/-- What ends a run of text in the zone. -/
def stop? : Zone → Option Char
  | .content => some '<'
  | .value _ => some '\x22'
  | .area _ => none

theorem step_braces (z : Zone) (rest : Text) :
    z.step '{' ('{' :: rest) = view (Scan.directive z.region 0 rest) := by
  cases z <;> rfl

theorem step_run {z : Zone} {stop c : Char} {cs : Text} (hz : z.stop? = some stop) (hc : c ≠ stop)
    (hd : ¬ ['{', '{'] <+: c :: cs) :
    z.step c cs = some ([.text (c :: Scan.literalRun stop cs)], z,
      (Scan.literalRun stop cs).length) := by
  have hbraces : ∀ rest, c = '{' → cs = '{' :: rest → False := by
    rintro rest rfl rfl
    exact hd ⟨rest, rfl⟩
  cases z with
  | area => cases hz
  | content =>
    cases hz
    show view (Scan.contentStep 0 c cs) = _
    unfold Scan.contentStep
    split
    · exact (hbraces _ rfl rfl).elim
    · exact absurd rfl hc
    · exact absurd rfl hc
    · exact absurd rfl hc
    · rfl
  | value tag =>
    cases hz
    show view (Scan.valueStep tag 0 0 0 c cs) = _
    unfold Scan.valueStep
    split
    · exact (hbraces _ rfl rfl).elim
    · exact absurd rfl hc
    · rfl

theorem takes_text {z : Zone} {stop : Char} {v rest : Text} (hz : z.stop? = some stop)
    (hv : IsRun stop v) (hr : RunEnds stop v rest) : z.Takes v rest [.text v] z := by
  obtain ⟨hne, hstop, hliteral, -⟩ := hv
  have hrun := (literalRun_append_iff hstop hliteral).mpr hr
  cases v with
  | nil => exact absurd rfl hne
  | cons c v =>
    rw [List.cons_append, Scan.literalRun] at hrun
    split at hrun
    · cases hrun
    · next hc =>
      injection hrun with _ hrun
      simp only [Bool.or_eq_true, decide_eq_true_eq, opensDirective_iff, not_or] at hc
      refine ⟨c, v, rfl, ?_⟩
      rw [step_run hz hc.1 hc.2, hrun]

theorem token_ne_text {body : Text} {t : Token} (h : Directive.token body = .ok t) (v : Text) :
    t ≠ .text v := by
  rintro rfl
  unfold Directive.token at h
  split at h
  · split at h <;> cases h
  · split at h <;> cases h
  · split at h <;> cases h
  · split at h <;> cases h
  · split at h
    · next header tok hi =>
      cases h
      unfold Directive.iteration? at hi
      split at hi
      · cases hi
      · split at hi
        · cases hi
        · split at hi <;> cases hi
    · cases h
  · split at h <;> cases h

theorem read_braces_ne_text {z : Zone} {rest : Text} {ts : List Token}
    (h : z.read ('{' :: '{' :: rest) = some ts) : ∃ t us, ts = t :: us ∧ ∀ v, t ≠ .text v := by
  rw [read_cons, step_braces, Scan.directive] at h
  split at h
  · cases h
  · next us q more hs =>
    obtain ⟨vs, -, rfl⟩ := Option.map_eq_some_iff.mp h
    split at hs
    · cases hs
    · split at hs
      · cases hs
      · next t ht =>
        cases hs
        exact ⟨t, vs, rfl, token_ne_text ht⟩

/-- A run that does not end where it should is not read. -/
theorem read_text_ne {z : Zone} {stop : Char} {v rest : Text} {ts : List Token}
    (hz : z.stop? = some stop) (hv : IsRun stop v) (hr : ¬ RunEnds stop v rest)
    (h : z.read (v ++ rest) = some ts) : ∃ t us, ts = t :: us ∧ t ≠ .text v := by
  obtain ⟨hne, hstop, hliteral, -⟩ := hv
  rw [← literalRun_append_iff hstop hliteral] at hr
  cases v with
  | nil => exact absurd rfl hne
  | cons c v =>
    by_cases ho : ['{', '{'] <+: c :: (v ++ rest)
    · obtain ⟨r, he⟩ := ho
      rw [List.cons_append, ← he] at h
      obtain ⟨t, us, rfl, hne⟩ := read_braces_ne_text h
      exact ⟨t, us, rfl, hne _⟩
    · rw [List.cons_append, read_cons] at h
      have hc : c ≠ stop := fun he => hstop (he ▸ List.mem_cons_self)
      rw [step_run hz hc ho] at h
      obtain ⟨vs, -, rfl⟩ := Option.map_eq_some_iff.mp h
      have hrun : ¬ (c = stop || Scan.opensDirective (c :: (v ++ rest))) = true := by
        simp only [Bool.or_eq_true, decide_eq_true_eq, opensDirective_iff, not_or]
        exact ⟨hc, ho⟩
      rw [List.cons_append, Scan.literalRun, if_neg hrun] at hr
      exact ⟨_, vs, rfl, fun he => hr (Token.text.inj he)⟩

/-! ## Directives -/

theorem takes_directive (z : Zone) {t : Token} (h : t.IsDirective) (hodd : ¬ t.IsOddBlank)
    (rest : Text) : z.Takes (braced t.body) rest [t] z := by
  refine ⟨'{', '{' :: t.body ++ ['}', '}'], rfl, ?_⟩
  rw [List.cons_append, List.cons_append, step_braces, Scan.directive, Token.cut?_body h]
  simp only [token_body h hodd, view, List.map_cons, List.map_nil, zone_region]
  simp

/-- An iteration over a blank other than a space is not read. -/
theorem read_oddBlank_ne {z : Zone} {t : Token} {rest : Text} {ts : List Token}
    (ht : t.IsDirective) (hodd : t.IsOddBlank) (h : z.read (braced t.body ++ rest) = some ts) :
    ∃ t' us, ts = t' :: us ∧ t' ≠ t := by
  obtain ⟨t', hne, ht'⟩ := token_body_oddBlank ht hodd
  rw [show braced t.body ++ rest = '{' :: '{' :: (t.body ++ ['}', '}'] ++ rest) from rfl,
    read_cons, step_braces, Scan.directive, Token.cut?_body ht] at h
  simp only [ht', view, List.map_cons, List.map_nil] at h
  obtain ⟨us, -, rfl⟩ := Option.map_eq_some_iff.mp h
  exact ⟨t', us, rfl, hne⟩

/-! ## Content -/

theorem takes_comment {v : Text} (hv : IsCommentText v) (rest : Text) :
    content.Takes ("<!--".toList ++ v ++ "-->".toList) rest [.comment v] .content := by
  refine ⟨'<', '!' :: '-' :: '-' :: (v ++ ['-', '-', '>']), rfl, ?_⟩
  have hcut : cut? ['-', '-', '>'] (v ++ ['-', '-', '>'] ++ rest) = some (v, rest) :=
    cut?_append (by simp) (not_infix_commentEnd hv.closed) rest
  show view (Scan.comment 0 (v ++ ['-', '-', '>'] ++ rest)) = _
  rw [Scan.comment, hcut]
  simp [view, Region.zone]

theorem contentStep_openingTag {t : Text} (hslash : t.head? ≠ some '/')
    (hcomment : ¬ ['!', '-', '-'] <+: t) :
    Scan.contentStep 0 '<' t = Scan.openingTag 0 t := by
  unfold Scan.contentStep
  split
  · next h => cases h
  · exact absurd rfl hslash
  · exact absurd ⟨_, rfl⟩ hcomment
  · rfl
  · exact absurd rfl (by assumption : ¬ '<' = '<')

/-- A tag that is not a closing one, and a comment, are not read as text. -/
theorem read_tag_ne_text {t : Text} {ts : List Token} (hslash : t.head? ≠ some '/')
    (h : content.read ('<' :: t) = some ts) : ∃ t us, ts = t :: us ∧ ∀ v, t ≠ .text v := by
  rw [read_cons, show content.step '<' t = view (Scan.contentStep 0 '<' t) from rfl] at h
  by_cases hcomment : ['!', '-', '-'] <+: t
  · obtain ⟨r, rfl⟩ := hcomment
    rw [show Scan.contentStep 0 '<' (['!', '-', '-'] ++ r) = Scan.comment 0 r from rfl,
      Scan.comment] at h
    split at h
    · cases h
    · next us q more hs =>
      obtain ⟨vs, -, rfl⟩ := Option.map_eq_some_iff.mp h
      split at hs
      · cases hs
      · cases hs
        exact ⟨_, _, rfl, nofun⟩
  · rw [contentStep_openingTag hslash hcomment, Scan.openingTag] at h
    split at h
    · cases h
    · next us q more hs =>
      obtain ⟨vs, -, rfl⟩ := Option.map_eq_some_iff.mp h
      split at hs
      · cases hs
      · split at hs
        · cases hs
        · split at hs
          · cases hs
          · cases hs
            exact ⟨_, _, rfl, nofun⟩

/-- A tag's name is followed by an attribute area, unless a directive follows at once. -/
theorem step_openTag {tag rest : Text} (ht : IsTagName tag)
    (hr : ∀ c ∈ rest.head?, Scan.isTagChar c = false) :
    content.step '<' (tag ++ rest) =
      if Scan.opensDirective rest then none else some ([.openTag tag], .area tag, tag.length) := by
  have hname : (tag ++ rest).takeWhile Scan.isTagChar = tag := takeWhile_run ht.chars hr
  have hdrop : (tag ++ rest).dropWhile Scan.isTagChar = rest := dropWhile_run ht.chars hr
  have hhead : ∀ x, Scan.isTagChar x = false → (tag ++ rest).head? ≠ some x := by
    intro x hx he
    cases tag with
    | nil => exact ht.nonempty rfl
    | cons d tag => exact ne_of_isTagChar (ht.chars d List.mem_cons_self) hx (Option.some.inj he)
  have hcomment : ¬ ['!', '-', '-'] <+: tag ++ rest := by
    rintro ⟨r, he⟩
    refine ht.noComment ⟨r.takeWhile Scan.isTagChar, ?_⟩
    rw [← hname, ← he]
    simp [show Scan.isTagChar '!' = true by decide,
      show Scan.isTagChar '-' = true by decide]
  have hbraces : Scan.opensDirective (tag ++ rest) = false := by
    rw [← Bool.not_eq_true, opensDirective_iff]
    rintro ⟨r, he⟩
    exact hhead '{' (by decide) (by rw [← he]; rfl)
  show view (Scan.contentStep 0 '<' (tag ++ rest)) = _
  rw [contentStep_openingTag (hhead '/' (by decide)) hcomment]
  simp only [Scan.openingTag, hname, hdrop, hbraces]
  cases Scan.opensDirective rest <;> simp [view, Region.zone, ht.nonempty]

theorem takes_openTag {tag rest : Text} (ht : IsTagName tag)
    (hr : ∀ c ∈ rest.head?, c = ' ' ∨ c = '>') :
    content.Takes ('<' :: tag) rest [.openTag tag] (.area tag) := by
  have hstop : ∀ c ∈ rest.head?, Scan.isTagChar c = false := by
    intro c hc
    rcases hr c hc with rfl | rfl <;> decide
  have hbraces : Scan.opensDirective rest = false := by
    rw [← Bool.not_eq_true, opensDirective_iff]
    rintro ⟨r, rfl⟩
    rcases hr '{' rfl with h | h <;> cases h
  refine ⟨'<', tag, rfl, ?_⟩
  rw [step_openTag ht hstop, hbraces]
  rfl

theorem takes_closeTag {tag : Text} (ht : IsClosingName tag) (rest : Text) :
    content.Takes ("</".toList ++ tag ++ ['>']) rest [.closeTag tag] .content := by
  refine ⟨'<', '/' :: (tag ++ ['>']), rfl, ?_⟩
  have hcut : cut? ['>'] (tag ++ ['>'] ++ rest) = some (tag, rest) := by
    refine cut?_append (by simp) (fun hi => ?_) rest
    rw [List.dropLast_singleton, List.append_nil] at hi
    exact ht.closed (hi.subset List.mem_cons_self)
  have hbraces : cut? ['{', '{'] tag = none := (cut?_eq_none_iff (by simp)).mpr ht.literal
  show view (Scan.closingTag 0 (tag ++ ['>'] ++ rest)) = _
  rw [Scan.closingTag, hcut]
  simp only [trim_of_trimmed ht.trimmed, hbraces, ht.notVoid]
  simp [view, Region.zone, ht.nonempty]

/-! ## Attribute areas -/

theorem takes_blank (tag : Text) {rest : Text} (hr : ∀ c ∈ rest.head?, isBlank c = false) :
    (area tag).Takes [' '] rest [] (.area tag) := by
  refine ⟨' ', [], rfl, ?_⟩
  have hrun : rest.takeWhile isBlank = [] := takeWhile_run (u := []) nofun hr
  show view (Scan.attributesStep tag 0 0 ' ' rest) = _
  simp [Scan.attributesStep, hrun, view, Region.zone, show isBlank ' ' = true by decide]

theorem takes_stop {tag : Text} (hv : isVoid tag = false) (rest : Text) :
    (area tag).Takes ['>'] rest [.stopAttributes] .content := by
  refine ⟨'>', [], rfl, ?_⟩
  show view (Scan.attributesStep tag 0 0 '>' rest) = _
  simp [Scan.attributesStep, hv, view, Region.zone]

theorem takes_stopClosed (tag rest : Text) :
    (area tag).Takes ['/', '>'] rest [.stopAttributes, .closeTag tag] .content :=
  ⟨'/', ['>'], rfl, rfl⟩

theorem takes_closeValue (tag rest : Text) :
    (value tag).Takes ['\x22'] rest [.closeAttribute] (.area tag) :=
  ⟨'\x22', [], rfl, rfl⟩

theorem attributesStep_name {tag : Text} {c : Char} {cs : Text}
    (hc : Scan.isAttributeChar c = true) :
    (area tag).step c cs = view (Scan.namedAttribute tag 0 0 c cs) := by
  show view (Scan.attributesStep tag 0 0 c cs) = _
  unfold Scan.attributesStep
  split
  · exact absurd hc (by decide)
  · exact absurd hc (by decide)
  · exact absurd hc (by decide)
  · rw [isAttributeChar_blank hc, hc]
    rfl

theorem takes_flag (tag : Text) {name rest : Text} (hn : IsAttributeName name)
    (hr : ∀ c ∈ rest.head?, Scan.isAttributeChar c = false)
    (heq : (trimStart rest).head? ≠ some '=') :
    (area tag).Takes name rest [.openAttribute name, .closeAttribute] (.area tag) := by
  obtain ⟨hne, hchars⟩ := hn
  cases name with
  | nil => exact absurd rfl hne
  | cons c cs =>
    have hcs : ∀ d ∈ cs, Scan.isAttributeChar d = true := fun d hd =>
      hchars d (List.mem_cons_of_mem c hd)
    refine ⟨c, cs, rfl, ?_⟩
    rw [attributesStep_name (hchars c List.mem_cons_self)]
    simp only [Scan.namedAttribute, takeWhile_run hcs hr, dropWhile_run hcs hr]
    split
    · next h => exact absurd (by rw [h]; rfl) heq
    · simp [view, Region.zone]

theorem takes_openValue (tag : Text) {name : Text} (hn : IsAttributeName name) (rest : Text) :
    (area tag).Takes (name ++ ['=', '\x22']) rest
      (.openAttribute name :: if rest.head? = some '\x22' then [.text []] else [])
      (.value tag) := by
  obtain ⟨hne, hchars⟩ := hn
  cases name with
  | nil => exact absurd rfl hne
  | cons c cs =>
    have hcs : ∀ d ∈ cs, Scan.isAttributeChar d = true := fun d hd =>
      hchars d (List.mem_cons_of_mem c hd)
    have hr : ∀ d ∈ ('=' :: '\x22' :: rest).head?, Scan.isAttributeChar d = false := by
      rintro d ⟨⟩
      decide
    have hequals := trimStart_cons_of_not_blank (c := '=') (by decide) ('\x22' :: rest)
    have hquote := trimStart_cons_of_not_blank (c := '\x22') (by decide) rest
    refine ⟨c, cs ++ ['=', '\x22'], rfl, ?_⟩
    rw [attributesStep_name (hchars c List.mem_cons_self), List.append_assoc, List.cons_append,
      List.singleton_append]
    simp only [Scan.namedAttribute, takeWhile_run hcs hr, dropWhile_run hcs hr, hequals, hquote]
    have hb : isBlank '=' = false ∧ isBlank '\x22' = false := by decide
    split <;> simp [view, Region.zone, hb]

end Zone

end Stencil
