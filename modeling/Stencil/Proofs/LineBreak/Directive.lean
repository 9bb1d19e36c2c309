import Stencil.Proofs.LineBreak.Run
import Stencil.Proofs.LineBreak.Tag
import Stencil.Proofs.Node.Spelling

/-!
# Line breaks after a directive

Whether a formatting run after a directive separates words depends on what the directive is. The
scanner reads its body from the front: it begins at the first opening braces and goes on to the
first closing braces. The run is collapsed by what follows the last opening braces before it
(`lastBody`), which is another text if braces open again in the body. Both agree on the directive
exactly if the two texts agree on whether they begin with the sign of a value
(`collapseLineBreaks_after_directive_iff`).
-/

namespace Stencil

open Text

/-- Whether a directive is read as an expression, though it may be an empty one. -/
def Directive.isValue : Except LexFault Token → Bool
  | .ok (.encode _) | .ok (.interpolate _) | .error .emptyExpression => true
  | _ => false

/-- Whether a step of the scanner reads an expression. -/
def Scan.Step.readsValue : Scan.Step → Bool
  | .advance events _ _ => events.any fun e => Directive.isValue (.ok e.token)
  | .fail _ error => Directive.isValue (.error error.fault)

namespace LineBreak

/-- Whether a body begins with the sign of a value. -/
def opensValue (body : Text) : Bool := body.head?.any isValueSigil

/-- What is left of a formatting run between a directive and words. -/
def spacing (body : Text) : Text := if opensValue body then [' '] else []

/-- What follows the last opening braces of a directive with the given body. -/
def lastBody (body : Text) : Text :=
  match cut? ['{', '{'] (body.reverse ++ ['{', '{']) with
  | some (last, _) => last.reverse
  | none => body

/-- A directive with the body `b` stands first in its template, behind `p`, and words follow it on a
later line. -/
structure EndsLine (p b run s : Text) : Prop where
  front : ¬ ['{', '{'] <:+: p ∧ p.getLast? ≠ some '{'
  frontVisible : ∀ c ∈ p.head?, isBlank c = false
  body : ¬ ['}', '}'] <:+: b ∧ b.getLast? ≠ some '}'
  run : allBlank run = true ∧ '\n' ∈ run
  words : s ≠ [] ∧ Trimmed s
  wordsStart : s.head? ≠ some '<' ∧ ¬ ['{', '{'] <+: s
  oneLine : '\n' ∉ p ∧ '\n' ∉ b ∧ '\n' ∉ s

/-! ## Reading from the front -/

theorem cut?_append_braced {p : Text} (hp : ¬ ['{', '{'] <:+: p) (hl : p.getLast? ≠ some '{')
    (b rest : Text) : cut? ['{', '{'] (p ++ braced b ++ rest) = some (p, b ++ ['}', '}'] ++ rest) := by
  have hcut : cut? ['{', '{'] (p ++ ['{', '{'] ++ (b ++ ['}', '}'] ++ rest)) =
      some (p, b ++ ['}', '}'] ++ rest) :=
    cut?_append (by simp) (not_double_infix_append hp hl (by decide)) _
  have ht : p ++ braced b ++ rest = p ++ ['{', '{'] ++ (b ++ ['}', '}'] ++ rest) := by
    simp [braced]
  rw [ht, hcut]

/-- A directive is read as an expression by its first character. -/
theorem isValue_token (body : Text) :
    Directive.isValue (Directive.token body) = opensValue body := by
  unfold Directive.token
  split
  · next source => cases allBlank source <;> rfl
  · next source => cases allBlank source <;> rfl
  · next test => cases allBlank test <;> rfl
  · next test _ => cases allBlank test <;> rfl
  · next header =>
    split
    · next tok h =>
      unfold Directive.iteration? at h
      split at h
      · cases h
        rfl
      · split at h
        · cases h
          rfl
        · split at h
          · cases h
            rfl
          · cases h
    · rfl
  · next hequals hbang _ _ _ =>
    have hvalue : opensValue body = false := by
      cases body with
      | nil => rfl
      | cons c cs =>
        have hne : c ≠ '!' ∧ c ≠ '=' :=
          ⟨fun h => hbang cs (by rw [h]), fun h => hequals cs (by rw [h])⟩
        simp [opensValue, isValueSigil, hne.1, hne.2]
    rw [hvalue]
    cases allBlank body <;> rfl

/-- In every region of a template, a step at opening braces reads the body up to the first closing
ones. -/
theorem readsValue_step {b : Text} (hb : ¬ ['}', '}'] <:+: b) (hl : b.getLast? ≠ some '}')
    (rest : Text) (region : Region) (pos : Nat) :
    (Scan.step pos '{' ('{' :: (b ++ ['}', '}'] ++ rest)) region).readsValue = opensValue b := by
  have hstep : Scan.step pos '{' ('{' :: (b ++ ['}', '}'] ++ rest)) region =
      Scan.directive region pos (b ++ ['}', '}'] ++ rest) := by
    cases region <;> rfl
  have hcut : cut? ['}', '}'] (b ++ ['}', '}'] ++ rest) = some (b, rest) :=
    cut?_append (by simp) (not_double_infix_append hb hl (by decide)) _
  rw [hstep, ← isValue_token, Scan.directive, hcut]
  cases ht : Directive.token b with
  | error fault => simp only [ht, Scan.Step.readsValue]
  | ok t => simp only [ht, Scan.Step.readsValue, List.any_cons, List.any_nil, Bool.or_false]

/-! ## Searching from the end -/

/-- The last directive begins behind the last opening braces. -/
theorem lastBodyStart?_append_braces {x : Text} (hx : x ≠ []) (h : ¬ ['{', '{'] <:+: x ++ ['{'])
    (rest : Text) : lastBodyStart? (x ++ '{' :: '{' :: rest) = x.getLast? := by
  induction x with
  | nil => exact absurd rfl hx
  | cons a x ih =>
    rw [List.cons_append, lastBodyStart?_cons]
    cases x with
    | nil => rfl
    | cons d x =>
      have hopen : ¬ ['{', '{'].isPrefixOf (d :: x ++ '{' :: '{' :: rest) = true := by
        intro hp
        have hmark : ['{', '{'].isPrefixOf (d :: x ++ ['{', '{'] ++ rest) = true := by
          simpa using hp
        exact h (List.infix_cons (isPrefixOf_append_mark hmark).isInfix)
      rw [if_neg hopen, ih (List.cons_ne_nil d x) fun hi => h (List.infix_cons hi),
        List.getLast?_cons_cons]

theorem lastBody_spec (b : Text) :
    (∃ u, ['{', '{'] ++ b = u ++ ['{', '{'] ++ lastBody b) ∧
      ¬ ['{', '{'] <:+: (lastBody b).reverse ++ ['{'] := by
  unfold lastBody
  split
  · next last before hcut =>
    obtain ⟨hb, hlast⟩ := cut?_sound (by simp) hcut
    refine ⟨⟨before.reverse, ?_⟩, by simpa using hlast⟩
    have hr := congrArg List.reverse hb
    simpa using hr
  · next hcut =>
    exact absurd ⟨b.reverse, [], by simp⟩ ((cut?_eq_none_iff (by simp)).mp hcut)

/-- What follows the last opening braces is the whole body, unless braces open again in it. -/
theorem lastBody_of_closed {b : Text} (h : ¬ ['{', '{'] <:+: '{' :: b) : lastBody b = b := by
  have hr : ¬ ['{', '{'] <:+: b.reverse ++ ['{'] := by
    intro hi
    have hi := List.reverse_infix.mpr hi
    exact h (by simpa using hi)
  have hcut : cut? ['{', '{'] (b.reverse ++ ['{', '{'] ++ []) = some (b.reverse, []) :=
    cut?_append (by simp) hr []
  rw [List.append_nil] at hcut
  rw [lastBody, hcut]
  exact List.reverse_reverse b

/-- A run is collapsed by what follows the last opening braces before it. -/
theorem separator_braced {s : Text} (p b : Text) (ha : s.head? ≠ some '<')
    (ho : ¬ ['{', '{'] <+: s) : separator (p ++ braced b).reverse s = spacing (lastBody b) := by
  obtain ⟨⟨u, hu⟩, hlast⟩ := lastBody_spec b
  have hbefore : (p ++ braced b).reverse =
      ('}' :: '}' :: (lastBody b).reverse) ++ '{' :: '{' :: (p ++ u).reverse := by
    have hb : p ++ braced b = p ++ (['{', '{'] ++ b) ++ ['}', '}'] := by simp [braced]
    rw [hb, hu]
    simp
  have hstart : lastBodyStart? (p ++ braced b).reverse =
      some ((lastBody b).head?.getD '}') := by
    have hinner : ¬ ['{', '{'] <:+: '}' :: '}' :: (lastBody b).reverse ++ ['{'] := by
      rw [List.cons_append, List.cons_append, double_infix_cons (by decide),
        double_infix_cons (by decide)]
      exact hlast
    rw [hbefore, lastBodyStart?_append_braces (List.cons_ne_nil _ _) hinner]
    cases lastBody b with
    | nil => rfl
    | cons c w =>
      rw [List.reverse_cons, ← List.cons_append, ← List.cons_append, List.getLast?_concat]
      rfl
  have hvalue : (some ((lastBody b).head?.getD '}')).any isValueSigil = opensValue (lastBody b) := by
    unfold opensValue
    cases (lastBody b).head? <;> rfl
  have hclosed : ['}', '}'].isPrefixOf (p ++ braced b).reverse = true := by
    rw [hbefore]
    rfl
  have hopens : ['{', '{'].isPrefixOf s = false := by
    rw [← Bool.not_eq_true, List.isPrefixOf_iff_prefix]
    exact ho
  have hhead : (p ++ braced b).reverse.head? = some '}' := by
    rw [hbefore]
    rfl
  rw [separator_eq_ite, hhead, hclosed, hopens, hstart, Option.some_or, hvalue]
  simp [ha, spacing]

/-! ## Collapsing -/

/-- A text without line breaks is kept, whatever follows its last visible character. -/
theorem collapse_oneLine_append (before : Text) {u : Text} (hl : '\n' ∉ u)
    (hu : ∀ c ∈ u.getLast?, isBlank c = false) (t : Text) :
    collapse before (u ++ t) = u ++ collapse (u.reverse ++ before) t := by
  fun_induction collapse before u with
  | case1 => rfl
  | case2 before c cs hc run rest ih =>
    have hsplit : run ++ rest = c :: cs := by
      rw [List.cons_append, List.takeWhile_append_dropWhile]
    have hb : allBlank run = true := allBlank_run hc cs
    rw [← hsplit] at hl hu ⊢
    rw [List.mem_append, not_or] at hl
    have hrest : rest ≠ [] := ne_nil_of_visible_end (List.cons_ne_nil _ _) hb hu
    rw [List.getLast?_append_of_ne_nil run hrest] at hu
    have hhead : ∀ x ∈ (rest ++ t).head?, isBlank x = false := by
      rw [List.head?_append_of_ne_nil rest hrest]
      exact head_trimStart cs
    rw [List.append_assoc, collapse_run before (List.cons_ne_nil _ _) hb hhead, if_neg hl.1,
      ih hl.2 hu, List.reverse_append, List.append_assoc, List.append_assoc]
  | case3 before c cs hc ih =>
    rw [List.mem_cons, not_or] at hl
    have hcs : ∀ x ∈ cs.getLast?, isBlank x = false := by
      intro x hx
      refine hu x ?_
      rw [List.getLast?_cons, Option.mem_def.mp hx]
      rfl
    rw [List.cons_append, collapse, if_neg hc, ih hl.2 hcs, List.reverse_cons, List.append_assoc]
    rfl

theorem EndsLine.trimmed {p b run s : Text} (h : EndsLine p b run s) :
    Trimmed (p ++ braced b ++ (run ++ s)) := by
  constructor
  · cases p with
    | nil =>
      rintro c ⟨⟩
      decide
    | cons d p => exact h.frontVisible
  · rw [← List.append_assoc, List.getLast?_append_of_ne_nil _ h.words.1]
    exact h.words.2.2

theorem EndsLine.collapseLineBreaks_eq {p b run s : Text} (h : EndsLine p b run s) :
    collapseLineBreaks (p ++ braced b ++ (run ++ s)) =
      p ++ braced b ++ (spacing (lastBody b) ++ s) := by
  have hline : '\n' ∉ p ++ braced b := by
    simp [braced, h.oneLine.1, h.oneLine.2.1]
  have hend : ∀ c ∈ (p ++ braced b).getLast?, isBlank c = false := by
    rw [Node.getLast?_append_braced]
    rintro c ⟨⟩
    decide
  rw [collapseLineBreaks, trim_of_trimmed h.trimmed, collapse_oneLine_append [] hline hend,
    collapse_run _ (List.ne_nil_of_mem h.run.2) h.run.1 h.words.2.1, if_pos h.run.2,
    collapse_of_oneLine _ h.oneLine.2.2, List.append_nil,
    separator_braced p b h.wordsStart.1 h.wordsStart.2]

theorem spacing_eq_iff {b w : Text} : spacing w = spacing b ↔ opensValue w = opensValue b := by
  unfold spacing
  cases opensValue w <;> cases opensValue b <;> simp

end LineBreak

open LineBreak in
/-- Of a line break between a directive and words, a space is left by what follows the last opening
braces of the directive, while it is read from its first ones. The space is the one that a directive
read so should have exactly if both begin with the sign of a value or neither does. -/
theorem collapseLineBreaks_after_directive_iff {p b run s : Text} (h : EndsLine p b run s) :
    (cut? ['{', '{'] (p ++ braced b ++ (run ++ s)) = some (p, b ++ ['}', '}'] ++ (run ++ s)) ∧
      ∀ region pos,
        (Scan.step pos '{' ('{' :: (b ++ ['}', '}'] ++ (run ++ s))) region).readsValue =
          opensValue b) ∧
    collapseLineBreaks (p ++ braced b ++ (run ++ s)) =
      p ++ braced b ++ (spacing (lastBody b) ++ s) ∧
    (collapseLineBreaks (p ++ braced b ++ (run ++ s)) = p ++ braced b ++ (spacing b ++ s) ↔
      opensValue (lastBody b) = opensValue b) ∧
    (¬ ['{', '{'] <:+: '{' :: b → lastBody b = b) := by
  refine ⟨⟨cut?_append_braced h.front.1 h.front.2 b _, readsValue_step h.body.1 h.body.2 _⟩,
    h.collapseLineBreaks_eq, ?_, lastBody_of_closed⟩
  rw [h.collapseLineBreaks_eq, List.append_cancel_left_eq, List.append_cancel_right_eq,
    spacing_eq_iff]

open LineBreak in
/-- Words are joined to an expression that holds opening braces. -/
theorem collapseLineBreaks_after_directive_reopened :
    collapseLineBreaks "\x7b\x7b! t(\x22\x7b\x7b\x22) \x7d\x7d\nwords".toList =
        "\x7b\x7b! t(\x22\x7b\x7b\x22) \x7d\x7dwords".toList ∧
      collapseLineBreaks "\x7b\x7b! t(\x22\x7b\x7b\x22) \x7d\x7d\nwords".toList ≠
        "\x7b\x7b! t(\x22\x7b\x7b\x22) \x7d\x7d words".toList := by
  have hends : EndsLine [] "! t(\x22\x7b\x7b\x22) ".toList ['\n'] "words".toList := {
    front := ⟨not_double_infix_of_not_mem List.not_mem_nil, nofun⟩
    frontVisible := nofun
    body := ⟨not_double_infix_of_not_mem (by decide), by decide⟩
    run := by decide
    words := ⟨List.cons_ne_nil _ _, by rintro c ⟨⟩; decide, by rintro c ⟨⟩; decide⟩
    wordsStart := ⟨by decide, fun hp => absurd (hp.subset List.mem_cons_self) (by decide)⟩
    oneLine := by decide }
  obtain ⟨-, hleft, hiff, -⟩ := collapseLineBreaks_after_directive_iff hends
  refine ⟨hleft, fun hspace => ?_⟩
  exact absurd (hiff.mp hspace) (by decide)

end Stencil
