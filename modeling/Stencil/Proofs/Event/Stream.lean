import Stencil.Proofs.Event.Zone

/-!
# Token streams

`Stream z ts` says which token lists a template without line breaks is scanned to from the zone `z`
on: what tokens each zone admits, what they hold, and which zone follows. In content a tag may begin
or end; in an attribute area attributes stand, with or without a value, until the tag ends; in a
value there is text. Directives stand everywhere and change no zone. The tag of a void element, and
one that closes itself, is followed at once by its closing token.

Every text that is read is such a stream (`stream_of_read`).
-/

namespace Stencil

open Text

inductive Stream : Zone → List Token → Prop where
  | nil : Stream .content []
  | directive {z : Zone} {t : Token} {ts : List Token} (ht : t.IsDirective) (h : Stream z ts) :
      Stream z (t :: ts)
  | text {v : Text} {ts : List Token} (hv : IsRun '<' v) (h : Stream .content ts) :
      Stream .content (.text v :: ts)
  | comment {v : Text} {ts : List Token} (hv : IsCommentText v) (h : Stream .content ts) :
      Stream .content (.comment v :: ts)
  | openTag {tag : Text} {ts : List Token} (ht : IsTagName tag) (h : Stream (.area tag) ts) :
      Stream .content (.openTag tag :: ts)
  | closeTag {tag : Text} {ts : List Token} (ht : IsClosingName tag) (h : Stream .content ts) :
      Stream .content (.closeTag tag :: ts)
  | flag {tag a : Text} {ts : List Token} (ha : IsAttributeName a) (h : Stream (.area tag) ts) :
      Stream (.area tag) (.openAttribute a :: .closeAttribute :: ts)
  | emptyValue {tag a : Text} {ts : List Token} (ha : IsAttributeName a)
      (h : Stream (.area tag) ts) :
      Stream (.area tag) (.openAttribute a :: .text [] :: .closeAttribute :: ts)
  | openValue {tag a : Text} {t : Token} {ts : List Token} (ha : IsAttributeName a)
      (ht : t ≠ .closeAttribute) (h : Stream (.value tag) (t :: ts)) :
      Stream (.area tag) (.openAttribute a :: t :: ts)
  | valueText {tag v : Text} {ts : List Token} (hv : IsRun '\x22' v) (h : Stream (.value tag) ts) :
      Stream (.value tag) (.text v :: ts)
  | closeValue {tag : Text} {ts : List Token} (h : Stream (.area tag) ts) :
      Stream (.value tag) (.closeAttribute :: ts)
  | stop {tag : Text} {ts : List Token} (hv : isVoid tag = false) (h : Stream .content ts) :
      Stream (.area tag) (.stopAttributes :: ts)
  | stopClosed {tag : Text} {ts : List Token} (h : Stream .content ts) :
      Stream (.area tag) (.stopAttributes :: .closeTag tag :: ts)

theorem Stream.of_closeValue {tag : Text} {ts : List Token}
    (h : Stream (.value tag) (.closeAttribute :: ts)) : Stream (.area tag) ts := by
  cases h with
  | directive ht => exact ht.elim
  | closeValue h => exact h

/-! ## Runs of text -/

theorem literalRun_append_drop (stop : Char) (t : Text) :
    Scan.literalRun stop t ++ t.drop (Scan.literalRun stop t).length = t := by
  induction t with
  | nil => rfl
  | cons c t ih =>
    rw [Scan.literalRun]
    split
    · rfl
    · rw [List.length_cons, List.drop_succ_cons, List.cons_append, ih]

theorem stop_not_mem_literalRun (stop : Char) (t : Text) : stop ∉ Scan.literalRun stop t := by
  induction t with
  | nil => simp [Scan.literalRun]
  | cons c t ih =>
    rw [Scan.literalRun]
    split
    · simp
    · next hc =>
      simp only [Bool.or_eq_true, decide_eq_true_eq, not_or] at hc
      simp [Ne.symm hc.1, ih]

theorem opensDirective_iff {t : Text} :
    Scan.opensDirective t = true ↔ ['{', '{'] <+: t := by
  constructor
  · intro h
    unfold Scan.opensDirective at h
    split at h
    · exact ⟨_, rfl⟩
    · cases h
  · rintro ⟨rest, rfl⟩
    rfl

theorem literal_literalRun (stop : Char) (t : Text) : ¬ ['{', '{'] <:+: Scan.literalRun stop t := by
  induction t with
  | nil => simp [Scan.literalRun]
  | cons c t ih =>
    rw [Scan.literalRun]
    split
    · simp
    · next hc =>
      rw [List.infix_cons_iff]
      rintro (hp | hi)
      · -- Braces at the front of the run would be at the front of the text.
        have ht : c :: Scan.literalRun stop t <+: c :: t :=
          (List.prefix_cons_inj c).mpr ⟨_, literalRun_append_drop stop t⟩
        refine hc ?_
        rw [opensDirective_iff.mpr (hp.trans ht), Bool.or_true]
      · exact ih hi

/-- A run that begins at `c` holds neither the character that stops it nor a directive. -/
theorem isRun_literalRun {stop c : Char} {cs : Text} (hc : c ≠ stop)
    (hd : Scan.opensDirective (c :: cs) = false) (hl : '\n' ∉ c :: cs) :
    IsRun stop (c :: Scan.literalRun stop cs) := by
  have hrun : Scan.literalRun stop (c :: cs) = c :: Scan.literalRun stop cs := by
    rw [Scan.literalRun, hd, if_neg (by simp [hc])]
  exact {
    nonempty := by simp
    unstopped := hrun ▸ stop_not_mem_literalRun stop (c :: cs)
    literal := hrun ▸ literal_literalRun stop (c :: cs)
    oneLine := fun hm => hl (by
      rw [← literalRun_append_drop stop (c :: cs), hrun]
      exact List.mem_append_left _ hm) }

/-! ## Single steps -/

namespace Zone

variable {c : Char} {cs : Text} {us ts : List Token} {z z' : Zone} {more : Nat}

theorem step_directive {region : Region} {rest : Text}
    (h : view (Scan.directive region 0 rest) = some (us, z, more)) (hl : '\n' ∉ rest) :
    ∃ t : Token, t.IsDirective ∧ us = [t] ∧ z = region.zone := by
  unfold Scan.directive at h
  split at h
  · cases h
  · next body after hcut =>
    obtain ⟨hrest, hclosed⟩ := cut?_sound (by simp) hcut
    split at h
    · cases h
    · next t ht =>
      obtain ⟨hu, hz, -⟩ := view_advance h
      refine ⟨t, isDirective_of_token ht ?_ ?_, hu, hz⟩
      · exact fun hi => hclosed (List.infix_append_of_infix_left hi)
      · intro hm
        rw [hrest] at hl
        simp [hm] at hl

theorem step_closingTag {rest : Text} (h : view (Scan.closingTag 0 rest) = some (us, z, more))
    (hl : '\n' ∉ rest) : z = .content ∧ (us = [] ∨ ∃ n, IsClosingName n ∧ us = [.closeTag n]) := by
  unfold Scan.closingTag at h
  split at h
  · cases h
  · next inside after hcut =>
    obtain ⟨hrest, hclosed⟩ := cut?_sound (by simp) hcut
    simp only at h
    split at h
    · cases h
    · next hne =>
      split at h
      · cases h
      · next hlit =>
        obtain ⟨hu, hz, -⟩ := view_advance h
        refine ⟨hz, ?_⟩
        subst hu
        cases hv : isVoid (trim inside) with
        | true => exact .inl (by simp)
        | false =>
          refine .inr ⟨trim inside, ?_, by simp⟩
          have hin := infix_trim inside
          exact {
            nonempty := by simpa using hne
            trimmed := trimmed_trim inside
            closed := fun hm => hclosed (by
              rw [List.dropLast_singleton, List.append_nil]
              exact singleton_infix_of_mem (hin.subset hm))
            literal := by
              rw [← cut?_eq_none_iff (by simp)]
              simpa using hlit
            notVoid := hv
            oneLine := fun hm => hl (by rw [hrest]; simp [hin.subset hm]) }

theorem step_comment {rest : Text} (h : view (Scan.comment 0 rest) = some (us, z, more))
    (hl : '\n' ∉ rest) : z = .content ∧ ∃ v, IsCommentText v ∧ us = [.comment v] := by
  unfold Scan.comment at h
  split at h
  · cases h
  · next value after hcut =>
    obtain ⟨hrest, hclosed⟩ := cut?_sound (by simp) hcut
    obtain ⟨hu, hz, -⟩ := view_advance h
    refine ⟨hz, value, ⟨?_, ?_⟩, hu⟩
    · exact fun hi => hclosed (List.infix_append_of_infix_left hi)
    · intro hm
      rw [hrest] at hl
      simp [hm] at hl

theorem step_openingTag {rest : Text} (hc : ¬ ['!', '-', '-'] <+: rest)
    (h : view (Scan.openingTag 0 rest) = some (us, z, more)) :
    ∃ tag, IsTagName tag ∧ us = [.openTag tag] ∧ z = .area tag := by
  unfold Scan.openingTag at h
  simp only at h
  split at h
  · cases h
  · split at h
    · cases h
    · next hne =>
      split at h
      · cases h
      · obtain ⟨hu, hz, -⟩ := view_advance h
        refine ⟨rest.takeWhile Scan.isTagChar, ?_, hu, hz⟩
        exact {
          nonempty := by simpa using hne
          chars := fun c hm => List.all_eq_true.mp List.all_takeWhile c hm
          noComment := fun hp => hc (hp.trans (List.takeWhile_prefix _)) }

theorem step_literal {region : Region} {stop : Char}
    (h : view (Scan.literal region stop 0 c cs) = some (us, z, more)) (hc : c ≠ stop)
    (hd : Scan.opensDirective (c :: cs) = false) (hl : '\n' ∉ c :: cs) :
    z = region.zone ∧ ∃ v, IsRun stop v ∧ us = [.text v] := by
  obtain ⟨hu, hz, -⟩ := view_advance h
  exact ⟨hz, c :: Scan.literalRun stop cs, isRun_literalRun hc hd hl, hu⟩

theorem opensDirective_eq_false (h : ∀ rest, c = '{' → cs ≠ '{' :: rest) :
    Scan.opensDirective (c :: cs) = false := by
  cases hd : Scan.opensDirective (c :: cs) with
  | false => rfl
  | true =>
    obtain ⟨rest, he⟩ := opensDirective_iff.mp hd
    injection he with hc hcs
    exact absurd hcs.symm (h rest hc.symm)

theorem stream_of_contentStep (h : content.step c cs = some (us, z, more)) (hl : '\n' ∉ c :: cs)
    (hs : Stream z ts) : Stream .content (us ++ ts) := by
  have hl' : '\n' ∉ cs := fun hm => hl (List.mem_cons_of_mem c hm)
  simp only [step, region, Scan.step] at h
  unfold Scan.contentStep at h
  split at h
  · obtain ⟨t, ht, rfl, rfl⟩ := step_directive h fun hm => hl' (List.mem_cons_of_mem _ hm)
    exact .directive ht hs
  · obtain ⟨rfl, rfl | ⟨n, hn, rfl⟩⟩ :=
      step_closingTag h fun hm => hl' (List.mem_cons_of_mem _ hm)
    · exact hs
    · exact .closeTag hn hs
  · obtain ⟨rfl, v, hv, rfl⟩ := step_comment h fun hm => hl' (by simp [hm])
    exact .comment hv hs
  · next hslash hcomment =>
    obtain ⟨tag, ht, rfl, rfl⟩ := step_openingTag (fun hp => by
      obtain ⟨rest, rfl⟩ := hp
      exact hcomment rest rfl) h
    exact .openTag ht hs
  · next htag hbraces _ _ =>
    obtain ⟨rfl, v, hv, rfl⟩ := step_literal h htag (opensDirective_eq_false hbraces) hl
    exact .text hv hs

theorem stream_of_valueStep {tag : Text} (h : (value tag).step c cs = some (us, z, more))
    (hl : '\n' ∉ c :: cs) (hs : Stream z ts) : Stream (.value tag) (us ++ ts) := by
  simp only [step, region, Scan.step] at h
  unfold Scan.valueStep at h
  split at h
  · obtain ⟨t, ht, rfl, rfl⟩ := step_directive h fun hm => hl (by simp [hm])
    exact .directive ht hs
  · obtain ⟨rfl, rfl, -⟩ := view_advance h
    exact .closeValue hs
  · next hquote hbraces =>
    obtain ⟨rfl, v, hv, rfl⟩ := step_literal h hquote (opensDirective_eq_false hbraces) hl
    exact .valueText hv hs

theorem read_value_quote (tag t : Text) :
    (value tag).read ('\x22' :: t) = ((area tag).read t).map (.closeAttribute :: ·) := by
  have h : (value tag).Takes ['\x22'] t [.closeAttribute] (.area tag) := ⟨'\x22', [], rfl, rfl⟩
  exact h.read

/-- A value that does not end at once begins with text or a directive. -/
theorem head_of_valueStep {tag : Text} (h : (value tag).step c cs = some (us, z, more))
    (hl : '\n' ∉ c :: cs) (hc : c ≠ '\x22') : ∃ t, us = [t] ∧ t ≠ .closeAttribute := by
  simp only [step, region, Scan.step] at h
  unfold Scan.valueStep at h
  split at h
  · obtain ⟨t, ht, rfl, _⟩ := step_directive h fun hm => hl (by simp [hm])
    refine ⟨t, rfl, ?_⟩
    rintro rfl
    exact ht
  · exact absurd rfl hc
  · next hquote hbraces =>
    obtain ⟨_, v, _, rfl⟩ := step_literal h hquote (opensDirective_eq_false hbraces) hl
    exact ⟨_, rfl, by simp⟩

theorem stream_of_read_value {tag a t : Text} (hr : (value tag).read t = some ts)
    (hl : '\n' ∉ t) (ht : t.head? ≠ some '\x22') (ha : IsAttributeName a)
    (hs : Stream (.value tag) ts) : Stream (.area tag) (.openAttribute a :: ts) := by
  cases t with
  | nil => simp at hr
  | cons c cs =>
    rw [read_cons] at hr
    split at hr
    · cases hr
    · next us z more hstep =>
      obtain ⟨t, rfl, ht'⟩ := head_of_valueStep hstep hl (by simpa using ht)
      obtain ⟨ts', _, rfl⟩ := Option.map_eq_some_iff.mp hr
      exact .openValue ha ht' hs

/-- Where the value of an attribute begins. -/
theorem drop_attributeValue {after inside : Text}
    (ha : trimStart (cs.dropWhile Scan.isAttributeChar) = '=' :: after)
    (hi : trimStart after = '\x22' :: inside) :
    cs.drop ((c :: cs.takeWhile Scan.isAttributeChar).length +
      (((cs.dropWhile Scan.isAttributeChar).takeWhile isBlank).length +
        (after.takeWhile isBlank).length) + 1) = inside := by
  have h₁ : cs.takeWhile Scan.isAttributeChar ++ cs.dropWhile Scan.isAttributeChar = cs :=
    List.takeWhile_append_dropWhile
  have h₂ : (cs.dropWhile Scan.isAttributeChar).takeWhile isBlank ++ '=' :: after =
      cs.dropWhile Scan.isAttributeChar := by
    rw [← ha]
    exact List.takeWhile_append_dropWhile
  have h₃ : after.takeWhile isBlank ++ '\x22' :: inside = after := by
    rw [← hi]
    exact List.takeWhile_append_dropWhile
  generalize cs.takeWhile Scan.isAttributeChar = name at *
  generalize (cs.dropWhile Scan.isAttributeChar).takeWhile isBlank = blanks at *
  generalize after.takeWhile isBlank = blanks' at *
  rw [← h₁, ← h₂, ← h₃]
  have hsplit : name ++ (blanks ++ '=' :: (blanks' ++ '\x22' :: inside)) =
      (name ++ blanks ++ ['='] ++ blanks' ++ ['\x22']) ++ inside := by simp
  rw [hsplit, List.drop_left']
  simp only [List.length_append, List.length_cons, List.length_nil]
  omega

theorem stream_of_namedAttribute {tag : Text}
    (h : view (Scan.namedAttribute tag 0 0 c cs) = some (us, z, more))
    (hc : Scan.isAttributeChar c = true) (hl : '\n' ∉ cs) (hr : z.read (cs.drop more) = some ts)
    (hs : Stream z ts) : Stream (.area tag) (us ++ ts) := by
  have ha : IsAttributeName (c :: cs.takeWhile Scan.isAttributeChar) := by
    refine ⟨by simp, fun x hx => ?_⟩
    rcases List.mem_cons.mp hx with rfl | hx
    · exact hc
    · exact List.all_eq_true.mp List.all_takeWhile x hx
  simp only [Scan.namedAttribute] at h
  split at h
  · next after hafter =>
    split at h
    · next inside hinside =>
      obtain ⟨hu, hz, hmore⟩ := view_advance h
      have hdrop : cs.drop more = inside := by
        rw [hmore]
        exact drop_attributeValue hafter hinside
      have hli : '\n' ∉ inside := fun hm => hl ((List.drop_sublist more cs).subset (hdrop ▸ hm))
      subst hz
      rw [hdrop] at hr
      split at hu
      · next hquote =>
        subst hu
        obtain ⟨rest, rfl⟩ := List.head?_eq_some_iff.mp hquote
        obtain ⟨ts', _, rfl⟩ := Option.map_eq_some_iff.mp ((read_value_quote tag rest).symm.trans hr)
        exact .emptyValue ha hs.of_closeValue
      · next hquote =>
        subst hu
        exact stream_of_read_value hr hli hquote ha hs
    · cases h
  · obtain ⟨rfl, rfl, -⟩ := view_advance h
    exact .flag ha hs

theorem stream_of_attributesStep {tag : Text} (h : (area tag).step c cs = some (us, z, more))
    (hl : '\n' ∉ c :: cs) (hr : z.read (cs.drop more) = some ts) (hs : Stream z ts) :
    Stream (.area tag) (us ++ ts) := by
  simp only [step, region, Scan.step] at h
  unfold Scan.attributesStep at h
  split at h
  · obtain ⟨t, ht, rfl, rfl⟩ := step_directive h fun hm => hl (by simp [hm])
    exact .directive ht hs
  · obtain ⟨hu, rfl, -⟩ := view_advance h
    cases hv : isVoid tag with
    | true =>
      rw [hv] at hu
      subst hu
      exact .stopClosed hs
    | false =>
      rw [hv] at hu
      subst hu
      exact .stop hv hs
  · obtain ⟨rfl, rfl, -⟩ := view_advance h
    exact .stopClosed hs
  · split at h
    · obtain ⟨rfl, rfl, -⟩ := view_advance h
      exact hs
    · split at h
      · next hc =>
        exact stream_of_namedAttribute h hc (fun hm => hl (List.mem_cons_of_mem c hm)) hr hs
      · cases h

/-- A text without line breaks that is read is a stream of tokens. -/
theorem stream_of_read {t : Text} (hl : '\n' ∉ t) (h : z.read t = some ts) : Stream z ts := by
  generalize hn : t.length = n
  induction n using Nat.strongRecOn generalizing z t ts with
  | _ n ih =>
    cases t with
    | nil =>
      cases z with
      | content =>
        rw [read_content_nil] at h
        cases h
        exact .nil
      | area | value => simp at h
    | cons c cs =>
      rw [read_cons] at h
      split at h
      · cases h
      · next us z' more hstep =>
        obtain ⟨ts', hr, rfl⟩ := Option.map_eq_some_iff.mp h
        have hlt : (cs.drop more).length < n := by
          rw [← hn, List.length_drop, List.length_cons]
          omega
        have hl' : '\n' ∉ cs.drop more := fun hm =>
          hl (List.mem_cons_of_mem c ((List.drop_sublist more cs).subset hm))
        have hs : Stream z' ts' := ih _ hlt hl' hr rfl
        cases z with
        | content => exact stream_of_contentStep hstep hl hs
        | area tag => exact stream_of_attributesStep hstep hl hr hs
        | value tag => exact stream_of_valueStep hstep hl hs

end Zone

end Stencil
