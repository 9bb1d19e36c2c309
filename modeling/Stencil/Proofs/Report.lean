import Stencil.Proofs.Parse
import Stencil.Proofs.Text.Mark

/-!
# What the caret points at

A report on a template ends with a line of the source and a caret below it. The line is counted by
line feeds, of which a source that was scanned has none, and shown up to the first line end of any
kind. `pointedAt?` reads the character above the caret back from the written report: it is the one
at the reported position exactly if no line end stands before it, nor is it one itself
(`caret_points_at_fault_iff`). That only the surroundings of a column are shown does not matter.
-/

namespace Stencil

open Text

/-! ## Lines -/

theorem head_lines (t : Text) : (lines t)[0]?.getD [] = t.takeWhile (!isLineEnd ·) := by
  fun_induction lines t with
  | case1 => rfl
  | case2 cs ih => rfl
  | case3 c cs hcr hc ih => simp [hc]
  | case4 c cs hcr hc hnil ih =>
    rw [hnil] at ih
    simp [hc, ← ih]
  | case5 c cs hcr hc line rest hcons ih =>
    rw [hcons] at ih
    simp [hc, ← ih]

/-- A character belongs to the first run exactly if all characters up to it do. -/
theorem getElem?_takeWhile_iff {q : Char → Bool} {t : Text} {p : Nat} (hp : p < t.length) :
    (t.takeWhile q)[p]? = t[p]? ↔ ∀ c ∈ t.take (p + 1), q c = true := by
  constructor
  · intro h c hc
    rw [List.getElem?_eq_getElem hp] at h
    obtain ⟨hlt, -⟩ := List.getElem?_eq_some_iff.mp h
    obtain ⟨r, hr⟩ := List.takeWhile_prefix q (l := t)
    have htake : t.take (p + 1) = (t.takeWhile q).take (p + 1) := by
      calc t.take (p + 1) = (t.takeWhile q ++ r).take (p + 1) := by rw [hr]
        _ = (t.takeWhile q).take (p + 1) := List.take_append_of_le_length hlt
    rw [htake] at hc
    exact List.all_eq_true.mp List.all_takeWhile c (List.mem_of_mem_take hc)
  · intro h
    have hsplit : t.takeWhile q = t.take (p + 1) ++ (t.drop (p + 1)).takeWhile q := by
      calc t.takeWhile q = (t.take (p + 1) ++ t.drop (p + 1)).takeWhile q := by
            rw [List.take_append_drop]
        _ = t.take (p + 1) ++ (t.drop (p + 1)).takeWhile q := List.takeWhile_append_of_pos h
    have hlength : p < (t.take (p + 1)).length := by
      rw [List.length_take]
      omega
    rw [hsplit, List.getElem?_append_left hlength, List.getElem?_take_of_lt (Nat.lt_succ_self p)]

/-! ## Written reports -/

theorem ofPosition_of_oneLine {source : Text} (h : '\n' ∉ source) (p : Nat) :
    Place.ofPosition source p = ⟨1, p⟩ := by
  have hbefore : '\n' ∉ source.take p := fun hm => h (List.mem_of_mem_take hm)
  have hline : (source.take p).reverse.takeWhile (· ≠ '\n') = (source.take p).reverse := by
    have hall : ∀ c ∈ (source.take p).reverse, decide (c ≠ '\n') = true := by
      intro c hc
      refine decide_eq_true ?_
      rintro rfl
      exact hbefore (List.mem_reverse.mp hc)
    have hrun := takeWhile_run (r := []) hall nofun
    rwa [List.append_nil] at hrun
  unfold Place.ofPosition
  dsimp only
  rw [hline, List.count_eq_zero.mpr hbefore, List.length_reverse, Nat.sub_self, Nat.sub_zero]

namespace Report

/-- The character above the caret, which stands in the last line of a written report. -/
def pointedAt? (message : Text) : Option Char :=
  match (splitOn '\n' message).reverse with
  | pointer :: shown :: _ => shown[pointer.idxOf '^']?
  | _ => none

theorem pointedAt?_append (front : Text) {shown pointer : Text} (hs : '\n' ∉ shown)
    (hp : '\n' ∉ pointer) :
    pointedAt? (front ++ '\n' :: (shown ++ '\n' :: pointer)) = shown[pointer.idxOf '^']? := by
  rw [pointedAt?, splitOn_append_mark, splitOn_append_mark, splitOn_of_not_mem hs,
    splitOn_of_not_mem hp]
  simp

/-- The line of the caret, below the column. -/
theorem idxOf_caret (margin : Text) (n : Nat) (h : '^' ∉ margin) :
    (margin ++ spaces n ++ ['^']).idxOf '^' = margin.length + n := by
  have hspaces : '^' ∉ margin ++ spaces n := by
    rw [List.mem_append, not_or]
    exact ⟨h, fun hm => absurd (List.eq_of_mem_replicate hm) (by decide)⟩
  rw [List.idxOf_append, if_neg hspaces, List.idxOf_cons_self, Nat.zero_add, List.length_append,
    spaces, List.length_replicate]

/-- Where the surroundings of a column are shown, the column is as far from the beginning as the
caret is. -/
theorem getElem?_shown (l : Text) (p : Nat) :
    ((l.take (p + excerptReach)).drop (p - excerptReach))[p - (p - excerptReach)]? = l[p]? := by
  have hreach : 0 < excerptReach := by decide
  rw [List.getElem?_drop, Nat.add_sub_cancel' (Nat.sub_le p excerptReach),
    List.getElem?_take_of_lt (by omega)]

/-- What stands before a clipped line. -/
def ellipsis (start : Nat) : Text := if start = 0 then [] else "...".toList

theorem excerpt_first (source : Text) (p : Nat) :
    excerpt source ⟨1, p⟩ =
      "\n    |".toList ++ '\n' :: ("  1 | ".toList ++ ellipsis (p - excerptReach) ++
        ((source.takeWhile (!isLineEnd ·)).take (p + excerptReach)).drop (p - excerptReach) ++
        '\n' :: ("    | ".toList ++
          spaces ((ellipsis (p - excerptReach)).length + p - (p - excerptReach)) ++ ['^'])) := by
  have hpad : padStart 3 (Text.ofNat 1) = "  1".toList := by decide
  rw [← head_lines]
  unfold excerpt ellipsis
  dsimp only
  rw [hpad]
  simp

/-- The caret points into the first line of a source, at the column of the place. -/
theorem pointedAt?_excerpt (front source : Text) (p : Nat) :
    pointedAt? (front ++ excerpt source ⟨1, p⟩) = (source.takeWhile (!isLineEnd ·))[p]? := by
  have hshown : '\n' ∉ ((source.takeWhile (!isLineEnd ·)).take (p + excerptReach)).drop
      (p - excerptReach) := by
    intro hm
    have hline := List.mem_of_mem_take (List.mem_of_mem_drop hm)
    exact absurd (List.all_eq_true.mp List.all_takeWhile _ hline) (by decide)
  have hellipsis : '\n' ∉ "  1 | ".toList ++ ellipsis (p - excerptReach) := by
    unfold ellipsis
    split <;> decide
  have hpointer : ∀ n, '\n' ∉ "    | ".toList ++ spaces n ++ ['^'] := by
    intro n hm
    rw [List.mem_append, List.mem_append] at hm
    rcases hm with (hm | hm) | hm
    · exact absurd hm (by decide)
    · exact absurd (List.eq_of_mem_replicate hm) (by decide)
    · exact absurd hm (by decide)
  rw [excerpt_first, ← List.append_assoc]
  generalize ellipsis (p - excerptReach) = dots at *
  have hindex : "    | ".toList.length + (dots.length + p - (p - excerptReach)) =
      ("  1 | ".toList ++ dots).length + (p - (p - excerptReach)) := by
    have hmargin : "    | ".toList.length = "  1 | ".toList.length := by decide
    have hstart : p - excerptReach ≤ p := Nat.sub_le _ _
    rw [List.length_append]
    omega
  have hline : '\n' ∉ "  1 | ".toList ++ dots ++
      ((source.takeWhile (!isLineEnd ·)).take (p + excerptReach)).drop (p - excerptReach) := by
    rw [List.mem_append, not_or]
    exact ⟨hellipsis, hshown⟩
  rw [pointedAt?_append _ hline (hpointer _), idxOf_caret _ _ (by decide), hindex,
    List.getElem?_append_right (Nat.le_add_right _ _), Nat.add_sub_cancel_left, getElem?_shown]

theorem pointedAt?_format {r : Report} {source : Text} {p : Nat} (hs : r.source = some source)
    (hp : r.position = some p) (hc : r.construct = none) (hl : '\n' ∉ source) :
    pointedAt? r.format = (source.takeWhile (!isLineEnd ·))[p]? := by
  have hplace : r.place? = some ⟨1, p⟩ := by
    unfold place?
    rw [hs, hp]
    exact congrArg some (ofPosition_of_oneLine hl p)
  unfold format
  rw [hs, hplace, hc]
  dsimp only
  rw [List.append_nil]
  exact pointedAt?_excerpt _ source p

end Report

/-! ## Reports on templates -/

theorem source_of_parse {t : Text} {e : SyntaxError} (h : parse t = .error e) :
    e.source = collapseLineBreaks t := by
  unfold parse Scan.build at h
  dsimp only at h
  split at h
  · cases h
    rfl
  · split at h
    · cases h
      rfl
    · split at h
      · cases h
        rfl
      · cases h

/-- The caret of the report on a template stands below the character at the reported position
exactly if there is no line end up to it. -/
theorem caret_points_at_fault_iff {t : Text} {e : SyntaxError} (file : Text)
    (h : parse t = .error e) (hp : e.position < (collapseLineBreaks t).length) :
    Report.pointedAt? (e.report file).format = (collapseLineBreaks t)[e.position]? ↔
      ∀ c ∈ (collapseLineBreaks t).take (e.position + 1), isLineEnd c = false := by
  have hsource := source_of_parse h
  have hpointed := Report.pointedAt?_format (r := e.report file) rfl rfl rfl
    (hsource ▸ lineFeed_not_mem_collapseLineBreaks t)
  rw [hpointed, hsource, getElem?_takeWhile_iff hp]
  simp only [Bool.not_eq_true']

/-- Behind a form feed the caret points at nothing. -/
theorem caret_points_past_formFeed :
    Report.pointedAt? (SyntaxError.report []
        ⟨.structural (.nothingOpen (.tag ['b'])), 2, "a\x0c</b>".toList⟩).format ≠ some '<' := by
  have h : parse "a\x0c</b>".toList =
      .error ⟨.structural (.nothingOpen (.tag ['b'])), 2, "a\x0c</b>".toList⟩ := by
    with_unfolding_all rfl
  have hsource := source_of_parse h
  have hiff := caret_points_at_fault_iff [] h (by rw [← hsource]; decide)
  rw [← hsource] at hiff
  intro hpointed
  have hends := hiff.mp hpointed '\x0c' (by decide)
  exact absurd hends (by decide)

end Stencil
