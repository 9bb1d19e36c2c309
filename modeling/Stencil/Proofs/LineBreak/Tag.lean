import Stencil.Proofs.Event.Reading
import Stencil.Proofs.Parse

/-!
# Line breaks after the name of a tag

A formatting run between the name of a tag and its attribute area is collapsed without regard to the
tag. Where one space is left of it, the template is read as if the space had been there. Where
nothing is left, the name runs on into what follows: `LineBreak.runsOn` says when this does harm,
which is the case before a directive that puts out no value, and after a name that ends in two
braces. The line break is insignificant in all other cases, and in no such case
(`parse_tag_lineBreak_iff`).
-/

namespace Stencil

open Text Node

namespace LineBreak

/-! ## What remains of a run -/

/-- The last directive does not begin in a text without braces. -/
theorem lastBodyStart?_append {v : Text} (hv : '{' ∉ v) (u : Text) :
    lastBodyStart? (u ++ v) = lastBodyStart? u := by
  have hhead : ∀ {w : Text}, '{' ∉ w → w.head? ≠ some '{' := fun hw he =>
    hw (List.mem_of_head? he)
  induction u with
  | nil =>
    induction v with
    | nil => rfl
    | cons x v ih =>
      rw [List.mem_cons, not_or] at hv
      have hp : ['{', '{'].isPrefixOf v = false := isPrefixOf_pair_append (hhead hv.2) []
      rw [List.nil_append, lastBodyStart?_cons, hp]
      exact ih hv.2
  | cons x u ih =>
    rw [List.cons_append, lastBodyStart?_cons, lastBodyStart?_cons,
      isPrefixOf_pair_append (hhead hv), ih]

/-- Blanks that were read before do not matter for later runs. -/
theorem separator_blank {base w w' u : Text} (hbase : '{' ∉ base) (hlen : 1 < base.length)
    (hw : allBlank w = true) (hne : w ≠ []) (hw' : allBlank w' = true) (hne' : w' ≠ [])
    (hu : u ≠ []) (after : Text) :
    separator (u ++ (w ++ base)) after = separator (u ++ (w' ++ base)) after := by
  have hnot : ∀ {w : Text} {x : Char}, allBlank w = true → isBlank x = false → x ∉ w := by
    intro w x hw hx hm
    rw [isBlank_of_mem hw hm] at hx
    cases hx
  have hhead : ∀ v : Text, (u ++ v).head? = u.head? := by
    intro v
    obtain ⟨x, u, rfl⟩ := List.exists_cons_of_ne_nil hu
    rfl
  have hclosed : ∀ {w : Text}, allBlank w = true → w ≠ [] →
      ['}', '}'].isPrefixOf (u ++ (w ++ base)) = ['}', '}'].isPrefixOf u := by
    intro w hw hne
    refine isPrefixOf_pair_append (fun he => ?_) u
    obtain ⟨x, w, rfl⟩ := List.exists_cons_of_ne_nil hne
    exact hnot hw (by decide) (List.mem_of_head? he)
  have hbody : ∀ {w : Text}, allBlank w = true →
      (lastBodyStart? (u ++ (w ++ base))).or (u ++ (w ++ base)).reverse[1]? =
        (lastBodyStart? u).or base.reverse[1]? := by
    intro w hw
    have hbraces : '{' ∉ w ++ base := by
      rw [List.mem_append, not_or]
      exact ⟨hnot hw (by decide), hbase⟩
    rw [lastBodyStart?_append hbraces, List.reverse_append, List.reverse_append, List.append_assoc,
      List.getElem?_append_left (by simpa using hlen)]
  rw [separator_eq_ite, separator_eq_ite, hhead, hhead, hclosed hw hne, hclosed hw' hne', hbody hw,
    hbody hw']

/-! ## Collapsing from the front -/

theorem collapse_visible (before : Text) {u : Text} (hu : ∀ x ∈ u, isBlank x = false) (t : Text) :
    collapse before (u ++ t) = u ++ collapse (u.reverse ++ before) t := by
  induction u generalizing before with
  | nil => rfl
  | cons x u ih =>
    obtain ⟨hx, hu⟩ := List.forall_mem_cons.mp hu
    rw [List.cons_append, collapse, hx, if_neg Bool.false_ne_true, ih (x :: before) hu]
    simp

theorem collapse_run (before : Text) {run t : Text} (hne : run ≠ []) (hr : allBlank run = true)
    (ht : ∀ c ∈ t.head?, isBlank c = false) :
    collapse before (run ++ t) =
      (if '\n' ∈ run then separator before t else run) ++ collapse (run.reverse ++ before) t := by
  obtain ⟨x, run, rfl⟩ := List.exists_cons_of_ne_nil hne
  rw [allBlank_cons, Bool.and_eq_true] at hr
  have hrun : ∀ y ∈ run, isBlank y = true := fun y hy => isBlank_of_mem hr.2 hy
  rw [List.cons_append, collapse, if_pos hr.1]
  simp only [takeWhile_run hrun ht, dropWhile_run hrun ht]

/-- What has been read matters only as far as it decides what remains of later runs. -/
theorem collapse_congr {b b' : Text}
    (h : ∀ u, u ≠ [] → ∀ after, separator (u ++ b) after = separator (u ++ b') after) {u : Text}
    (hu : u ≠ []) (t : Text) : collapse (u ++ b) t = collapse (u ++ b') t := by
  generalize hv : u ++ b = before
  fun_induction collapse before t generalizing u with
  | case1 => rw [collapse]
  | case2 before c cs hc run rest =>
    rename_i ih
    subst hv
    rw [collapse.eq_2, if_pos hc]
    have hrest : collapse (run.reverse ++ (u ++ b)) rest = collapse (run.reverse ++ u ++ b') rest :=
      ih (by simp [hu]) (by simp)
    rw [hrest, h u hu]
    simp [run, rest]
  | case3 before c cs hc ih =>
    subst hv
    rw [collapse.eq_2, if_neg hc, ih (u := c :: u) (List.cons_ne_nil c u) rfl]
    rfl

/-! ## After the name of a tag -/

/-- Whether the name of a tag runs on into what a line break separates it from. Braces at the end of
the name are taken for the end of a directive, the body of which begins with the name. -/
def runsOn (name after : Text) : Bool :=
  if ['}', '}'].isPrefixOf name.reverse then
    ['{', '{'].isPrefixOf after ||
      !(name.head?.any isValueSigil || after.head? = some '>' || after.head? = some '/')
  else ['{', '{'].isPrefixOf after && !(after.drop 2).head?.any isValueSigil

theorem brace_not_mem_tag {name : Text} (hn : IsTagName name) : '{' ∉ name.reverse ++ ['<'] := by
  rw [List.mem_append, List.mem_reverse, not_or]
  exact ⟨fun hm => ne_of_isTagChar (hn.chars _ hm) (x := '{') (by decide) rfl, by decide⟩

theorem separator_tag {name after : Text} (hn : IsTagName name) (ha : after.head? ≠ some '<') :
    separator (name.reverse ++ ['<']) after =
      if ['}', '}'].isPrefixOf name.reverse then
        if ['{', '{'].isPrefixOf after then []
        else if name.head?.any isValueSigil then [' '] else []
      else if ['{', '{'].isPrefixOf after then
        if (after.drop 2).head?.any isValueSigil then [' '] else []
      else [' '] := by
  have hhead : (name.reverse ++ ['<']).head? ≠ some '>' := by
    intro he
    rcases List.mem_append.mp (List.mem_of_head? he) with hm | hm
    · exact ne_of_isTagChar (hn.chars _ (List.mem_reverse.mp hm)) (x := '>') (by decide) rfl
    · exact absurd hm (by decide)
  have hbody : lastBodyStart? (name.reverse ++ ['<']) = none :=
    lastBodyStart?_append (brace_not_mem_tag hn) []
  have hsecond : (name.reverse ++ ['<']).reverse[1]? = name.head? := by
    rw [List.reverse_append, List.reverse_reverse]
    cases name <;> rfl
  have hfirst : ¬ ((name.reverse ++ ['<']).head? = some '>' || after.head? = some '<') = true := by
    rw [Bool.or_eq_true, decide_eq_true_eq, decide_eq_true_eq]
    exact fun h => h.elim hhead ha
  rw [separator_eq_ite, if_neg hfirst, isPrefixOf_pair_append (by decide), hbody, hsecond]
  rfl

/-- A run after the name of a tag leaves a space, unless the name runs on or the tag ends. -/
theorem separator_of_not_runsOn {name after : Text} (hn : IsTagName name)
    (ha : after.head? ≠ some '<') (h : runsOn name after = false) :
    separator (name.reverse ++ ['<']) after = [' '] ∨
      (separator (name.reverse ++ ['<']) after = [] ∧
        (after.head? = some '>' ∨ after.head? = some '/')) := by
  rw [separator_tag hn ha]
  unfold runsOn at h
  generalize ['}', '}'].isPrefixOf name.reverse = closes at h ⊢
  generalize ['{', '{'].isPrefixOf after = opens at h ⊢
  generalize name.head?.any isValueSigil = first at h ⊢
  generalize (after.drop 2).head?.any isValueSigil = value at h ⊢
  cases closes <;> cases opens <;> cases first <;> cases value <;> grind

theorem separator_of_runsOn {name after : Text} (hn : IsTagName name)
    (ha : after.head? ≠ some '<') (h : runsOn name after = true) :
    separator (name.reverse ++ ['<']) after = [] ∧
      after.head? ≠ some '>' ∧ after.head? ≠ some '/' := by
  have hopens : ['{', '{'].isPrefixOf after = true → after.head? = some '{' := by
    intro ho
    obtain ⟨r, rfl⟩ := isPrefixOf_pair.mp ho
    rfl
  rw [separator_tag hn ha]
  unfold runsOn at h
  generalize ['}', '}'].isPrefixOf name.reverse = closes at h ⊢
  generalize ['{', '{'].isPrefixOf after = opens at h hopens ⊢
  generalize name.head?.any isValueSigil = first at h ⊢
  generalize (after.drop 2).head?.any isValueSigil = value at h ⊢
  cases closes <;> cases opens <;> cases first <;> cases value <;> grind

/-- A name runs on into what is no directive only if it ends in braces. -/
theorem braces_of_runsOn {name after : Text} (h : runsOn name after = true)
    (ha : after.head? ≠ some '{') : ['}', '}'].isPrefixOf name.reverse = true := by
  have ho : ['{', '{'].isPrefixOf after = false := by
    rw [← Bool.not_eq_true, isPrefixOf_pair]
    rintro ⟨r, rfl⟩
    exact ha rfl
  unfold runsOn at h
  split at h
  · assumption
  · rw [ho, Bool.false_and] at h
    cases h

theorem isValueSigil_of_isBlank {c : Char} (h : isBlank c = true) : isValueSigil c = false := by
  have hne : ∀ x : Char, Text.isBlank x = false → c ≠ x := by
    rintro x hx rfl
    rw [h] at hx
    cases hx
  simp [isValueSigil, hne '!' (by decide), hne '=' (by decide)]

/-- Blanks at the end of a template do not matter. -/
theorem runsOn_append_blank (name : Text) (c : Char) (r : Text) {b : Text}
    (hb : allBlank b = true) : runsOn name (c :: r ++ b) = runsOn name (c :: r) := by
  have hhead : b.head? ≠ some '{' := fun he =>
    absurd (isBlank_of_mem hb (List.mem_of_head? he)) (by decide)
  have hblank : ∀ k, (b.drop k).head?.any isValueSigil = false := by
    intro k
    cases he : (b.drop k).head? with
    | none => rfl
    | some x =>
      have hmem := List.mem_of_mem_drop (List.mem_of_head? he)
      exact isValueSigil_of_isBlank (isBlank_of_mem hb hmem)
  have hvalue : ((c :: r ++ b).drop 2).head?.any isValueSigil =
      ((c :: r).drop 2).head?.any isValueSigil := by
    rw [List.drop_append, List.head?_append]
    cases ((c :: r).drop 2).head? with
    | none => exact hblank _
    | some x => rfl
  unfold runsOn
  rw [isPrefixOf_pair_append hhead, hvalue]
  rfl

end LineBreak

/-! ## Reading a tag -/

namespace Zone

/-- What an attribute area begins with. -/
theorem head_of_read_area {tag : Text} {c : Char} {cs : Text} {ts : List Token}
    (h : (area tag).read (c :: cs) = some ts) (hc : isBlank c = false) :
    Scan.opensDirective (c :: cs) = true ∨ c = '>' ∨ c = '/' ∨ Scan.isAttributeChar c = true := by
  rw [read_cons] at h
  split at h
  · cases h
  · next hs =>
    simp only [step, region, Scan.step] at hs
    unfold Scan.attributesStep at hs
    split at hs
    · exact .inl rfl
    · exact .inr (.inl rfl)
    · exact .inr (.inr (.inl rfl))
    · rw [hc, if_neg Bool.false_ne_true] at hs
      split at hs
      · next ha => exact .inr (.inr (.inr ha))
      · cases hs

/-- A tag whose area begins as its name ends is read as if a space stood between them. -/
theorem read_tag_space {name : Text} {c : Char} {cs : Text} (hn : IsTagName name)
    (hc : isBlank c = false) :
    content.read ('<' :: (name ++ ' ' :: c :: cs)) =
      ((area name).read (c :: cs)).map (.openTag name :: ·) := by
  have hopen : content.Takes ('<' :: name) (' ' :: c :: cs) [.openTag name] (.area name) :=
    takes_openTag hn fun d hd => by cases hd; exact .inl rfl
  have hspace : (area name).Takes [' '] (c :: cs) [] (.area name) :=
    takes_blank name fun d hd => by cases hd; exact hc
  rw [← List.cons_append, hopen.read, ← List.singleton_append (l := c :: cs), hspace.read]
  cases (area name).read (c :: cs) <;> rfl

/-- A tag whose area follows at once. -/
theorem read_tag {name rest : Text} (hn : IsTagName name)
    (hr : ∀ c ∈ rest.head?, Scan.isTagChar c = false) :
    content.read ('<' :: (name ++ rest)) =
      if Scan.opensDirective rest then none
      else ((area name).read rest).map (.openTag name :: ·) := by
  rw [read_cons, step_openTag hn hr]
  cases Scan.opensDirective rest with
  | true => rfl
  | false =>
    show ((area name).read ((name ++ rest).drop name.length)).map ([.openTag name] ++ ·) = _
    rw [List.drop_left]
    rfl

end Zone

theorem isTagChar_of_isAttributeChar {c : Char} (h : Scan.isAttributeChar c = true) :
    Scan.isTagChar c = true := by
  have hne : ∀ x, Scan.isAttributeChar x = false → c ≠ x := by
    rintro x hx rfl
    rw [h] at hx
    cases hx
  simp [Scan.isTagChar, isAttributeChar_blank h, hne '/' (by decide),
    hne '>' (by decide), hne '{' (by decide +kernel), hne '<' (by decide +kernel),
    hne '\x22' (by decide), hne '\x27' (by decide +kernel), hne '=' (by decide +kernel)]

/-- More characters make another name, and a name that ends in braces does not become a comment. -/
theorem IsTagName.append {name more : Text} (hn : IsTagName name)
    (hb : ['}', '}'].isPrefixOf name.reverse = true)
    (hm : ∀ c ∈ more, Scan.isTagChar c = true) : IsTagName (name ++ more) where
  nonempty := fun he => hn.nonempty (List.append_eq_nil_iff.mp he).1
  chars := fun c hc => (List.mem_append.mp hc).elim (hn.chars c) (hm c)
  noComment := by
    obtain ⟨r, hr⟩ := isPrefixOf_pair.mp hb
    have hname : name = r.reverse ++ ['}', '}'] := by
      rw [← List.reverse_reverse name, hr]
      simp
    have hcomment := hn.noComment
    rw [hname] at hcomment ⊢
    rintro ⟨t, ht⟩
    generalize r.reverse = u at ht hcomment
    rcases u with _ | ⟨x, _ | ⟨y, _ | ⟨w, u⟩⟩⟩
    · cases ht
    · cases ht
    · cases ht
    · injection ht with hx ht
      injection ht with hy ht
      injection ht with hw ht
      subst hx hy hw
      exact hcomment ⟨_, rfl⟩

/-! ## Templates that begin with a tag -/

theorem exists_trimEnd_cons {c : Char} (hc : isBlank c = false) (rest : Text) :
    ∃ r b, allBlank b = true ∧ rest = r ++ b ∧ trimEnd (c :: rest) = c :: r := by
  obtain ⟨b, hb, he⟩ := exists_eq_trimEnd_append (c :: rest)
  cases ht : trimEnd (c :: rest) with
  | nil =>
    rw [ht, List.nil_append] at he
    rw [← he, allBlank_cons, hc] at hb
    cases hb
  | cons x r =>
    rw [ht] at he
    injection he with hx hr
    subst hx
    exact ⟨r, b, hb, hr, rfl⟩

open LineBreak in
/-- Of the blanks after the name of a tag, what is left decides, and nothing later depends on
them. -/
theorem collapseLineBreaks_tag {name run : Text} {c : Char} {rest r : Text} (hn : IsTagName name)
    (hne : run ≠ []) (hb : allBlank run = true) (hc : isBlank c = false)
    (hr : trimEnd (c :: rest) = c :: r) :
    collapseLineBreaks ('<' :: (name ++ (run ++ c :: rest))) =
      '<' :: (name ++ ((if '\n' ∈ run then separator (name.reverse ++ ['<']) (c :: r) else run) ++
        c :: collapse (c :: ' ' :: (name.reverse ++ ['<'])) r)) := by
  have hrest : allBlank (c :: rest) = false := by rw [allBlank_cons, hc]; rfl
  have htrim : trim ('<' :: (name ++ (run ++ c :: rest))) =
      ('<' :: name) ++ (run ++ c :: r) := by
    have hsplit : '<' :: (name ++ (run ++ c :: rest)) = ('<' :: name ++ run) ++ (c :: rest) := by
      simp
    rw [trim, trimStart_cons_of_not_blank (by decide), hsplit, trimEnd_append_of_not_blank _ hrest,
      hr, List.append_assoc]
  have hvisible : ∀ x ∈ '<' :: name, isBlank x = false :=
    List.forall_mem_cons.mpr ⟨by decide, fun x hx => isTagChar_blank (hn.chars x hx)⟩
  have hlen : 1 < (name.reverse ++ ['<']).length := by
    have hpos := List.length_pos_iff.mpr hn.nonempty
    simp only [List.length_append, List.length_reverse, List.length_singleton]
    omega
  have hlater : collapse ([c] ++ (run.reverse ++ (name.reverse ++ ['<']))) r =
      collapse ([c] ++ ([' '] ++ (name.reverse ++ ['<']))) r := by
    refine collapse_congr (fun u hu after => ?_) (List.cons_ne_nil c []) r
    refine separator_blank (brace_not_mem_tag hn) hlen ?_ ?_ (by decide) (List.cons_ne_nil _ _) hu
      after
    · rw [allBlank, List.all_reverse]
      exact hb
    · exact fun he => hne (List.reverse_eq_nil_iff.mp he)
  rw [collapseLineBreaks, htrim, collapse_visible [] hvisible, List.append_nil,
    collapse_run _ hne hb (fun x hx => by cases hx; exact hc), List.reverse_cons, collapse, hc,
    if_neg Bool.false_ne_true]
  exact congrArg (fun t => '<' :: name ++ (_ ++ c :: t)) hlater

/-- The end of a tag may follow its name at once. -/
theorem read_tag_end {name : Text} {c : Char} {cs : Text} (hn : IsTagName name)
    (hc : c = '>' ∨ c = '/') :
    Zone.content.read ('<' :: (name ++ c :: cs)) =
      Zone.content.read ('<' :: (name ++ ' ' :: c :: cs)) := by
  have hstop : Scan.isTagChar c = false ∧ isBlank c = false ∧
      Scan.opensDirective (c :: cs) = false := by
    rcases hc with rfl | rfl
    · exact ⟨by decide, by decide, rfl⟩
    · exact ⟨by decide, by decide, rfl⟩
  rw [Zone.read_tag_space hn hstop.2.1, Zone.read_tag hn fun d hd => by cases hd; exact hstop.1,
    hstop.2.2]
  rfl

/-- A name that runs on into a directive is not read, and one that runs on into an attribute is read
as another name. -/
theorem read_tag_runsOn {name : Text} {c : Char} {cs : Text} {ts : List Token}
    (hn : IsTagName name)
    (hc : Scan.opensDirective (c :: cs) = true ∨
      (Scan.isTagChar c = true ∧ ['}', '}'].isPrefixOf name.reverse = true))
    (h : Zone.content.read ('<' :: (name ++ c :: cs)) = some ts) :
    ∃ name' us, name ≠ name' ∧ ts = .openTag name' :: us := by
  rcases hc with hd | ⟨hc, hbraces⟩
  · have hstop : ∀ x ∈ (c :: cs).head?, Scan.isTagChar x = false := by
      obtain ⟨r, hr⟩ := opensDirective_iff.mp hd
      rw [← hr]
      rintro x ⟨⟩
      decide
    rw [Zone.read_tag hn hstop, hd] at h
    cases h
  · have hmore : ∀ x ∈ c :: cs.takeWhile Scan.isTagChar, Scan.isTagChar x = true :=
      List.forall_mem_cons.mpr ⟨hc, fun x hx => List.all_eq_true.mp List.all_takeWhile x hx⟩
    have hsplit : name ++ c :: cs =
        (name ++ c :: cs.takeWhile Scan.isTagChar) ++ cs.dropWhile Scan.isTagChar := by
      rw [List.append_assoc, List.cons_append, List.takeWhile_append_dropWhile]
    have hstop : ∀ x ∈ (cs.dropWhile Scan.isTagChar).head?, Scan.isTagChar x = false := by
      intro x hx
      have := List.head?_dropWhile_not Scan.isTagChar cs
      rw [hx] at this
      exact this
    rw [hsplit, Zone.read_tag (hn.append hbraces hmore) hstop] at h
    split at h
    · cases h
    · obtain ⟨us, -, rfl⟩ := Option.map_eq_some_iff.mp h
      exact ⟨_, us, by simp, rfl⟩

section Separated

variable {name : Text} {c : Char} {r later : Text} {us : List Token} (hn : IsTagName name)
  (hc : isBlank c = false) (hus : (Zone.area name).read (c :: later) = some us)

include hc hus in
theorem head_ne_angle : (c :: r).head? ≠ some '<' := by
  intro he
  cases he
  rcases Zone.head_of_read_area hus hc with h | h | h | h
  · cases h
  · cases h
  · cases h
  · exact absurd h (by decide)

include hn hc hus

/-- If the name does not run on, it makes no difference what is left of the run after it. -/
theorem read_separated_of_not_runsOn (h : LineBreak.runsOn name (c :: r) = false) :
    Zone.content.read ('<' :: (name ++ (LineBreak.separator (name.reverse ++ ['<']) (c :: r) ++
      c :: later))) = Zone.content.read ('<' :: (name ++ ' ' :: c :: later)) := by
  rcases LineBreak.separator_of_not_runsOn hn (head_ne_angle hc hus) h with hone | ⟨hnone, hend⟩
  · rw [hone]
    rfl
  · have hend : c = '>' ∨ c = '/' := by simpa using hend
    rw [hnone]
    exact read_tag_end hn hend

/-- If it runs on, nothing is left of the run. -/
theorem read_separated_of_runsOn {ts : List Token} (h : LineBreak.runsOn name (c :: r) = true)
    (hts : Zone.content.read ('<' :: (name ++ (LineBreak.separator (name.reverse ++ ['<'])
      (c :: r) ++ c :: later))) = some ts) :
    ∃ name' us, name ≠ name' ∧ ts = .openTag name' :: us := by
  obtain ⟨hnone, hgt, hslash⟩ := LineBreak.separator_of_runsOn hn (head_ne_angle hc hus) h
  rw [hnone] at hts
  refine read_tag_runsOn hn ?_ hts
  rcases Zone.head_of_read_area hus hc with hd | rfl | rfl | ha
  · exact .inl hd
  · exact absurd rfl hgt
  · exact absurd rfl hslash
  · refine .inr ⟨isTagChar_of_isAttributeChar ha, LineBreak.braces_of_runsOn h ?_⟩
    rintro ⟨⟩
    exact absurd ha (by decide)

end Separated

/-- Which line breaks after the name of a tag are insignificant: those after which the name does not
run on into what follows. -/
theorem parse_tag_lineBreak_iff {name run : Text} {c : Char} {rest : Text} {d : Document}
    (hn : IsTagName name) (hb : allBlank run = true) (hl : '\n' ∈ run) (hc : isBlank c = false)
    (h : parse ('<' :: (name ++ ([' '] ++ c :: rest))) = .ok d) :
    parse ('<' :: (name ++ (run ++ c :: rest))) = .ok d ↔
      LineBreak.runsOn name (c :: rest) = false := by
  obtain ⟨r, b, hblank, hrest, hr⟩ := exists_trimEnd_cons hc rest
  have hruns : LineBreak.runsOn name (c :: rest) = LineBreak.runsOn name (c :: r) := by
    rw [hrest]
    exact LineBreak.runsOn_append_blank name c r hblank
  -- The two templates without line breaks, and what the first of them is read to.
  have hspaced := collapseLineBreaks_tag hn (List.cons_ne_nil ' ' []) (by decide) hc hr
  have hbroken := collapseLineBreaks_tag hn (List.ne_nil_of_mem hl) hb hc hr
  rw [if_neg (by decide)] at hspaced
  rw [if_pos hl] at hbroken
  generalize LineBreak.collapse (c :: ' ' :: (name.reverse ++ ['<'])) r = later at hspaced hbroken
  obtain ⟨ts, hts, hlinear⟩ := parse_eq_ok_iff.mp h
  rw [hspaced] at hts
  replace hts : Zone.content.read ('<' :: (name ++ ' ' :: c :: later)) = some ts := hts
  have hspace := hts
  rw [Zone.read_tag_space hn hc] at hspace
  obtain ⟨us, hus, rfl⟩ := Option.map_eq_some_iff.mp hspace
  rw [hruns, parse_eq_ok_iff, hbroken]
  show (∃ ts, Zone.content.read _ = some ts ∧ LinearAll d ts) ↔ _
  constructor
  · rintro ⟨ts', hts', hlinear'⟩
    cases hrun : LineBreak.runsOn name (c :: r) with
    | false => rfl
    | true =>
      obtain ⟨name', us', hname, rfl⟩ := read_separated_of_runsOn hn hc hus hrun hts'
      exact absurd (.inl ⟨by simpa using hname, rfl⟩) (hlinear.not_clash hlinear')
  · intro hrun
    exact ⟨_, (read_separated_of_not_runsOn hn hc hus hrun).trans hts, hlinear⟩

/-- A conditional attribute on the line after the name of its tag is lost: the name runs on into the
directive. -/
theorem parse_tag_lineBreak_conditional :
    parse "<br \x7b\x7b? x\x7d\x7db\x7b\x7b?\x7d\x7d>".toList =
        .ok [.element "br".toList [.conditional ['x'] [.attribute ['b'] []] none] []] ∧
      parse "<br\n\x7b\x7b? x\x7d\x7db\x7b\x7b?\x7d\x7d>".toList ≠
        .ok [.element "br".toList [.conditional ['x'] [.attribute ['b'] []] none] []] := by
  have hn : IsTagName "br".toList := ⟨nofun, List.all_eq_true.mp (by decide), by decide⟩
  have h : parse ('<' :: ("br".toList ++
      ([' '] ++ '{' :: "\x7b? x\x7d\x7db\x7b\x7b?\x7d\x7d>".toList))) =
      .ok [.element "br".toList [.conditional ['x'] [.attribute ['b'] []] none] []] := by
    with_unfolding_all rfl
  refine ⟨h, fun hp => ?_⟩
  have hbreak : allBlank ['\n'] = true ∧ '\n' ∈ ['\n'] := by decide
  have hrun := (parse_tag_lineBreak_iff hn hbreak.1 hbreak.2 (by decide) h).mp hp
  exact absurd hrun (by decide)

end Stencil
