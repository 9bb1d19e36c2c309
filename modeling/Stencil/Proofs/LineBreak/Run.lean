import Mathlib.Data.List.Basic
import Stencil.Proofs.Parse

/-!
# What collapsing changes

`Reformats t r` says that `r` is `t` with its formatting collapsed: of each whole run of blanks that
holds a line break nothing or one space is left, and every other character stays where it is. The
visible characters are then the same, and so are those at the ends.

A template without its line-break formatting is its trimmed text, reformatted
(`collapseLineBreaks_reformats`). It has no formatting left, so collapsing it again changes nothing
and it is parsed as the template is.
-/

namespace Stencil

open Text

namespace LineBreak

/-- One text is another with its formatting collapsed. A run goes on to the next visible character
and begins behind the last one, because nothing but a visible character may follow a run. -/
inductive Reformats : Text → Text → Prop where
  | nil : Reformats [] []
  | visible {c : Char} {t r : Text} (hc : isBlank c = false) (h : Reformats t r) :
      Reformats (c :: t) (c :: r)
  | kept {run t r : Text} (hne : run ≠ []) (hb : allBlank run = true) (hl : '\n' ∉ run)
      (ht : ∀ c ∈ t.head?, isBlank c = false) (h : Reformats t r) :
      Reformats (run ++ t) (run ++ r)
  | collapsed {run left t r : Text} (hb : allBlank run = true) (hl : '\n' ∈ run)
      (hleft : left = [] ∨ left = [' ']) (ht : ∀ c ∈ t.head?, isBlank c = false)
      (h : Reformats t r) : Reformats (run ++ t) (left ++ r)

theorem reformats_collapse (before t : Text) : Reformats t (collapse before t) := by
  fun_induction collapse before t with
  | case1 => exact .nil
  | case2 before c cs hc run rest ih =>
    have ht : run ++ rest = c :: cs := by
      rw [List.cons_append, List.takeWhile_append_dropWhile]
    have hb : allBlank run = true := allBlank_run hc cs
    have hrest : ∀ x ∈ rest.head?, isBlank x = false := head_trimStart cs
    rw [← ht]
    split
    · next hl => exact .collapsed hb hl (separator_eq before rest) hrest ih
    · next hl => exact .kept (List.cons_ne_nil c _) hb hl hrest ih
  | case3 before c cs hc ih => exact .visible (by simpa using hc) ih

/-! ## What reformatting keeps -/

theorem filter_visible_of_allBlank {t : Text} (h : allBlank t = true) :
    t.filter (fun c => !isBlank c) = [] := by
  rw [List.filter_eq_nil_iff]
  intro c hc
  simp [isBlank_of_mem h hc]

theorem allBlank_left {left : Text} (h : left = [] ∨ left = [' ']) : allBlank left = true := by
  rcases h with rfl | rfl <;> decide

/-- More stands behind a run if the last character is visible. -/
theorem ne_nil_of_visible_end {run u : Text} (hne : run ≠ []) (hb : allBlank run = true)
    (h : ∀ c ∈ (run ++ u).getLast?, isBlank c = false) : u ≠ [] := by
  rintro rfl
  rw [List.append_nil] at h
  have hlast := h (run.getLast hne) (List.getLast?_eq_some_getLast hne)
  rw [isBlank_of_mem hb (List.getLast_mem hne)] at hlast
  cases hlast

namespace Reformats

theorem filter_visible {t r : Text} (h : Reformats t r) :
    r.filter (fun c => !isBlank c) = t.filter (fun c => !isBlank c) := by
  induction h with
  | nil => rfl
  | visible hc h ih => simp [hc, ih]
  | kept hne hb hl ht h ih => rw [List.filter_append, List.filter_append, ih]
  | collapsed hb hl hleft ht h ih =>
    rw [List.filter_append, List.filter_append, ih, filter_visible_of_allBlank hb,
      filter_visible_of_allBlank (allBlank_left hleft)]

/-- A visible character stays the first one. -/
theorem head_visible {t r : Text} (h : Reformats t r) (ht : ∀ c ∈ t.head?, isBlank c = false) :
    r.head? = t.head? := by
  have hblank : ∀ {run u : Text}, run ≠ [] → allBlank run = true →
      ¬ ∀ c ∈ (run ++ u).head?, isBlank c = false := by
    intro run u hne hb hv
    obtain ⟨c, run, rfl⟩ := List.exists_cons_of_ne_nil hne
    rw [allBlank_cons, hv c rfl] at hb
    cases hb
  cases h with
  | nil => rfl
  | visible hc h => rfl
  | kept hne hb hl ht' h => exact absurd ht (hblank hne hb)
  | collapsed hb hl hleft ht' h => exact absurd ht (hblank (List.ne_nil_of_mem hl) hb)

theorem eq_nil {r : Text} (h : Reformats [] r) : r = [] :=
  List.head?_eq_none_iff.mp (h.head_visible nofun)

/-- A visible character stays the last one. -/
theorem getLast_visible {t r : Text} (h : Reformats t r)
    (ht : ∀ c ∈ t.getLast?, isBlank c = false) : r.getLast? = t.getLast? := by
  -- What stands before the last character does not matter, as long as the same text is behind it.
  have hlast : ∀ {u v : Text} (x y : Text), u ≠ [] → (∀ c ∈ (x ++ u).getLast?, isBlank c = false) →
      ((∀ c ∈ u.getLast?, isBlank c = false) → v.getLast? = u.getLast?) →
      (y ++ v).getLast? = (x ++ u).getLast? := by
    intro u v x y hu hx hv
    rw [List.getLast?_append_of_ne_nil x hu] at hx ⊢
    rw [List.getLast?_append, hv hx, List.getLast?_eq_some_getLast hu, Option.some_or]
  induction h with
  | nil => rfl
  | @visible c t r hc h ih =>
    by_cases hne : t = []
    · subst hne
      rw [h.eq_nil]
    · exact hlast [c] [c] hne ht ih
  | @kept run t r hne hb hl ht' h ih =>
    exact hlast run run (ne_nil_of_visible_end hne hb ht) ht ih
  | @collapsed run left t r hb hl hleft ht' h ih =>
    exact hlast run left (ne_nil_of_visible_end (List.ne_nil_of_mem hl) hb ht) ht ih

theorem trimmed {t r : Text} (h : Reformats t r) (ht : Trimmed t) : Trimmed r := by
  constructor
  · rw [h.head_visible ht.1]
    exact ht.1
  · rw [h.getLast_visible ht.2]
    exact ht.2

end Reformats

end LineBreak

/-! ## Templates -/

theorem filter_visible_trim (t : Text) :
    (trim t).filter (fun c => !isBlank c) = t.filter (fun c => !isBlank c) := by
  obtain ⟨a, b, ha, hb, hsplit⟩ := exists_eq_append_trim_append t
  have hfilter := congrArg (List.filter fun c => !isBlank c) hsplit
  rw [List.filter_append, List.filter_append, LineBreak.filter_visible_of_allBlank ha,
    LineBreak.filter_visible_of_allBlank hb, List.nil_append, List.append_nil] at hfilter
  exact hfilter.symm

theorem trimmed_collapseLineBreaks (t : Text) : Trimmed (collapseLineBreaks t) :=
  (LineBreak.reformats_collapse [] (trim t)).trimmed (trimmed_trim t)

theorem collapseLineBreaks_collapseLineBreaks (t : Text) :
    collapseLineBreaks (collapseLineBreaks t) = collapseLineBreaks t := by
  rw [collapseLineBreaks_of_oneLine (lineFeed_not_mem_collapseLineBreaks t),
    trim_of_trimmed (trimmed_collapseLineBreaks t)]

/-- What collapsing may change: whole runs of blanks with a line break, and nothing else of the
trimmed template. Nothing is left for another pass, nor for the parser. -/
theorem collapseLineBreaks_reformats (t : Text) :
    LineBreak.Reformats (trim t) (collapseLineBreaks t) ∧
      '\n' ∉ collapseLineBreaks t ∧
      Trimmed (collapseLineBreaks t) ∧
      (collapseLineBreaks t).filter (fun c => !isBlank c) = t.filter (fun c => !isBlank c) ∧
      collapseLineBreaks (collapseLineBreaks t) = collapseLineBreaks t ∧
      parse (collapseLineBreaks t) = parse t := by
  have hr : LineBreak.Reformats (trim t) (collapseLineBreaks t) :=
    LineBreak.reformats_collapse [] (trim t)
  refine ⟨hr, lineFeed_not_mem_collapseLineBreaks t, trimmed_collapseLineBreaks t,
    hr.filter_visible.trans (filter_visible_trim t), collapseLineBreaks_collapseLineBreaks t, ?_⟩
  unfold parse
  rw [collapseLineBreaks_collapseLineBreaks]

end Stencil
