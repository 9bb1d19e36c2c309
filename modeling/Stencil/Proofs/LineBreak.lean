import Stencil.LineBreak
import Stencil.Proofs.Text.Blank
import Stencil.Proofs.Text.Mark

/-!
# Texts without line breaks

A template without its line-break formatting has no line break left, and one that has none is only
trimmed.
-/

namespace Stencil

open Text

namespace LineBreak

theorem isBlank_lineFeed : isBlank '\n' = true := by decide

theorem separator_eq_ite (before after : Text) :
    separator before after =
      if before.head? = some '>' || after.head? = some '<' then []
      else if ['}', '}'].isPrefixOf before then
        if ['{', '{'].isPrefixOf after then []
        else if ((lastBodyStart? before).or before.reverse[1]?).any isValueSigil then [' '] else []
      else if ['{', '{'].isPrefixOf after then
        if (after.drop 2).head?.any isValueSigil then [' '] else []
      else [' '] := by
  have hpair : ∀ {x : Char} {t : Text}, (∀ r, t ≠ x :: x :: r) → [x, x].isPrefixOf t = false := by
    intro x t h
    rw [← Bool.not_eq_true, isPrefixOf_pair]
    exact fun ⟨r, he⟩ => h r he
  unfold separator
  split
  · rfl
  · split
    · simp
    · next hne => simp [hpair hne]
    · next hbefore _ => simp [hpair hbefore]
    · next hbefore hafter _ => simp [hpair hbefore, hpair hafter]

theorem lastBodyStart?_cons (x : Char) (t : Text) :
    lastBodyStart? (x :: t) = if ['{', '{'].isPrefixOf t then some x else lastBodyStart? t := by
  split
  · next h =>
    obtain ⟨r, rfl⟩ := isPrefixOf_pair.mp h
    rfl
  · next h =>
    rw [lastBodyStart?]
    rintro r rfl
    exact h rfl

/-- Nothing or one space remains of a formatting run. -/
theorem separator_eq (before after : Text) :
    separator before after = [] ∨ separator before after = [' '] := by
  unfold separator
  split
  · exact .inl rfl
  · split
    · exact .inl rfl
    · split
      · exact .inr rfl
      · exact .inl rfl
    · split
      · exact .inr rfl
      · exact .inl rfl
    · exact .inr rfl

theorem lineFeed_not_mem_collapse (before t : Text) : '\n' ∉ collapse before t := by
  fun_induction collapse before t with
  | case1 => simp
  | case2 before c cs hc run rest ih =>
    rw [List.mem_append, not_or]
    refine ⟨?_, ih⟩
    split
    · rcases separator_eq before rest with h | h <;> rw [h] <;> decide
    · assumption
  | case3 before c cs hc ih =>
    rw [List.mem_cons, not_or]
    refine ⟨?_, ih⟩
    rintro rfl
    exact hc isBlank_lineFeed

theorem collapse_of_oneLine (before : Text) {t : Text} (h : '\n' ∉ t) : collapse before t = t := by
  fun_induction collapse before t with
  | case1 => rfl
  | case2 before c cs hc run rest ih =>
    have ht : run ++ rest = c :: cs := by
      rw [List.cons_append, List.takeWhile_append_dropWhile]
    have hrun : '\n' ∉ run := fun hm => h (ht ▸ List.mem_append_left rest hm)
    have hrest : '\n' ∉ rest := fun hm => h (ht ▸ List.mem_append_right run hm)
    rw [if_neg hrun, ih hrest, ht]
  | case3 before c cs hc ih => rw [ih fun hm => h (List.mem_cons_of_mem c hm)]

end LineBreak

theorem lineFeed_not_mem_collapseLineBreaks (t : Text) : '\n' ∉ collapseLineBreaks t :=
  LineBreak.lineFeed_not_mem_collapse [] (trim t)

theorem collapseLineBreaks_of_oneLine {t : Text} (h : '\n' ∉ t) : collapseLineBreaks t = trim t :=
  LineBreak.collapse_of_oneLine [] fun hm => h ((infix_trim t).subset hm)

end Stencil
