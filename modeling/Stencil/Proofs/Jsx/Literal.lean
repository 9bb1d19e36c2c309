import Stencil.Jsx.Literal
import Stencil.Proofs.Text.Mark

/-!
# Escaping in one pass

The text inside a template literal is escaped by three replacements, each of which goes over what
the one before it has made. A backslash that was put in is not escaped again, and no replacement
makes or breaks a dollar sign before a brace, so that one pass over the text gives the same
(`escapeLiteral_eq_escapeOnce`).
-/

namespace Stencil.Jsx

open Text

/-- Escapes the text of a template literal in one pass. -/
def escapeOnce : Text → Text
  | [] => []
  | '$' :: '{' :: cs => '\\' :: '$' :: '{' :: escapeOnce cs
  | c :: cs =>
    if c = '\\' || c = '\x60' then '\\' :: c :: escapeOnce cs else c :: escapeOnce cs

/-- What the first two replacements make of a character. -/
def escapeChar (c : Char) : Text := if c = '\\' || c = '\x60' then ['\\', c] else [c]

theorem escapeLiteral_eq_replaceAll (t : Text) :
    escapeLiteral t = replaceAll ['$', '{'] ['\\', '$', '{'] (t.flatMap escapeChar) := by
  rw [escapeLiteral, replaceAll_singleton, replaceAll_singleton, List.flatMap_assoc]
  congr 2
  funext c
  by_cases hb : c = '\\'
  · subst hb
    rfl
  · rw [if_neg hb, List.flatMap_singleton, escapeChar]
    by_cases hq : c = '\x60'
    · rw [if_pos hq, hq]
      rfl
    · simp [hb, hq]

theorem escapeLiteral_eq_escapeOnce (t : Text) : escapeLiteral t = escapeOnce t := by
  have hpass : ∀ {c : Char}, c ≠ '$' → ∀ u,
      replaceAll ['$', '{'] ['\\', '$', '{'] (c :: u) =
        c :: replaceAll ['$', '{'] ['\\', '$', '{'] u := fun hc u =>
    replaceAll_cons_of_not_prefix (by simp [List.isPrefixOf, Ne.symm hc]) _
  rw [escapeLiteral_eq_replaceAll]
  fun_induction escapeOnce t with
  | case1 => rfl
  | case2 cs ih =>
    rw [← ih]
    exact replaceAll_append (List.cons_ne_nil _ _) _ _
  | case3 c cs hdollar hc ih =>
    have hne : c ≠ '$' := by
      rintro rfl
      exact absurd hc (by decide)
    rw [List.flatMap_cons, escapeChar, if_pos hc, List.cons_append, List.singleton_append,
      hpass (by decide), hpass hne, ih]
  | case4 c cs hdollar hc ih =>
    rw [List.flatMap_cons, escapeChar, if_neg hc, List.singleton_append, ← ih]
    refine replaceAll_cons_of_not_prefix ?_ _
    -- An inserted backslash may stand behind the dollar sign, but no brace.
    by_cases hd : c = '$'
    · cases cs with
      | nil => simp [List.isPrefixOf]
      | cons d cs =>
        have hbrace : d ≠ '{' := fun he => hdollar cs hd (by rw [he])
        rw [List.flatMap_cons, escapeChar]
        split <;> simp [List.isPrefixOf, Ne.symm hbrace]
    · simp [List.isPrefixOf, Ne.symm hd]

/-- Escaped text begins with its own first character, or with a backslash. -/
theorem head?_escapeLiteral_cons {c : Char} {t : Text} :
    (escapeLiteral (c :: t)).head? = some c ∨ (escapeLiteral (c :: t)).head? = some '\\' := by
  rw [escapeLiteral_eq_escapeOnce, escapeOnce.eq_def]
  split
  · next h => cases h
  · exact .inr rfl
  · next h =>
    cases h
    split
    · exact .inr rfl
    · exact .inl rfl

end Stencil.Jsx
