import Stencil.Lower.Render
import Stencil.Proofs.Jsx.Reference
import Stencil.Proofs.Lower.AttributeName

/-!
# Literal text in and out of directives

Literal text is written as markup inside an element and as a string in a branch; the value of a
literal attribute is written in double quotes on an element and as a string under a condition. The
references of the template are decoded in markup and between the quotes, but not in a string. So
both places denote the same text if and only if no reference occurs in it, and blank text, which a
branch drops, is empty (`literal_denotes_same_iff`).
-/

namespace Stencil.Lower

open Jsx (Attribute Property References)
open Text

/-- The text that a written branch puts out, if it is null or a string. -/
def readBranchText (t : Text) : Option Text :=
  if t = "null".toList then some []
  else
    match literal? t with
    | some (value, []) => some value
    | _ => none

/-- The value of a written attribute in double quotes. -/
def readQuotedValue (R : References) (t : Text) : Option Text :=
  match cut? ['='] t with
  | some (_, '\x22' :: rest) =>
    match cut? ['\x22'] rest with
    | some (value, []) => some (R.decode value)
    | _ => none
  | _ => none

/-- The value of the only entry of a written object, if it is a string. -/
def readEntryText (t : Text) : Option Text :=
  match firstEntry? t with
  | some (_, rest) =>
    match literal? rest with
    | some (value, ['}']) => some value
    | _ => none
  | none => none

variable {R : References} {config : Config} {room : Nat} {s : Text}

/-! ## Content -/

theorem not_occurs_of_allBlank (h : allBlank s = true) : ¬ R.Occurs s := by
  rintro ⟨before, name, rest, rfl, -⟩
  have hmark := List.all_eq_true.mp h '&' (by simp)
  exact absurd hmark (by decide)

/-- Blank text is dropped from a branch, other text is a string. -/
theorem outcome_branch_text (s : Text) :
    (branch config room [.text s]).outcome = .ok (if allBlank s then .null else .string s) := by
  have hsiblings : Node.meaningful [.text s] = if allBlank s then [] else [.text s] := by
    cases h : allBlank s <;> simp [Node.meaningful, Node.isBlank, h]
  unfold branch branchOf
  rw [hsiblings]
  cases h : allBlank s with
  | true => rfl
  | false =>
    have htext : Node.literalText [.text s] = s := by simp [Node.literalText]
    rw [htext]
    rfl

theorem readBranchText_print (s : Text) :
    readBranchText (Jsx.Expr.print (if allBlank s then .null else .string s)) =
      some (if allBlank s then [] else s) := by
  cases allBlank s with
  | true => rfl
  | false =>
    have hliteral := literal?_stringLiteral s []
    rw [List.append_nil] at hliteral
    have hne : stringLiteral s ≠ "null".toList := by
      intro h
      cases h
    show readBranchText (stringLiteral s) = some s
    rw [readBranchText, if_neg hne, hliteral]

/-! ## Attributes -/

theorem readQuotedValue_attribute {name : Text} (hname : '=' ∉ name) (hs : '\x22' ∉ s) :
    readQuotedValue R (Attribute.quoted name s).print = some (R.decode s) := by
  have hshape : (Attribute.quoted name s).print = name ++ '=' :: ('\x22' :: (s ++ ['\x22'])) := by
    show name ++ ['=', '\x22'] ++ s ++ ['\x22'] = _
    rw [List.append_assoc, List.append_assoc]
    rfl
  rw [hshape, readQuotedValue, cut?_char hname]
  show (match cut? ['\x22'] (s ++ ['\x22']) with
    | some (value, []) => some (R.decode value)
    | _ => none) = _
  rw [cut?_char hs]

theorem readEntryText_object (key s : Text) :
    readEntryText (Jsx.object (Property.printAll [.value key (.text s)])) = some s := by
  have hprint : Property.printAll [.value key (.text s)] =
      [asciiLiteral key ++ ": ".toList ++ stringLiteral s] := rfl
  rw [hprint, readEntryText, firstEntry?_object]
  dsimp only
  rw [literal?_stringLiteral]
  rfl

theorem attributeOf_text {name : Text} (hname : isStyle name = false) (s : Text) :
    attributeOf room name [.text s] = .ok (.quoted (attributeName name) s) := by
  have htext : Node.literalText [.text s] = s := by simp [Node.literalText]
  unfold attributeOf
  rw [hname, if_neg Bool.false_ne_true]
  show Except.ok (Attribute.quoted (attributeName name) (Node.literalText [.text s])) = _
  rw [htext]

theorem properties_text {name : Text} (hname : isStyle name = false) (s : Text) :
    properties room [.attribute name [.text s]] =
      .ok [.value (attributeName name) (.text s)] := by
  have htext : Node.literalText [.text s] = s := by simp [Node.literalText]
  rw [properties_attribute, property, hname, if_neg Bool.false_ne_true]
  show Except.ok [Property.value (attributeName name) (.text (Node.literalText [.text s]))] = _
  rw [htext]

/-! ## Both places -/

/-- Literal content denotes the same text in markup and in a branch, and a literal attribute the
same value on an element and under a condition, if and only if no reference occurs in the text;
blank content, which a branch drops, has to be empty too. A style attribute is the same object in
both places. -/
theorem literal_denotes_same_iff (R : References) (config : Config) (room : Nat) (s : Text) :
    ('<' ∉ s → ∃ markup x t u, (renderNode config room false (.text s)).outcome = .ok markup ∧
      (branch config room [.text s]).outcome = .ok x ∧
      R.readMarkup [] markup = some t ∧ readBranchText x.print = some u ∧
      (t = u ↔ ¬ R.Occurs s ∧ (allBlank s = true → s = []))) ∧
    ('\x22' ∉ s → ∀ name, IsAttributeName name → isStyle name = false → ∃ a ps v w,
      attributeOf room name [.text s] = .ok a ∧
      properties room [.attribute name [.text s]] = .ok ps ∧
      readQuotedValue R a.print = some v ∧
      readEntryText (Jsx.object (Property.printAll ps)) = some w ∧ (v = w ↔ ¬ R.Occurs s)) ∧
    ∀ name object, isStyle name = true →
      (attributeOf room name [.text s] = .ok (.style object) ↔
        properties room [.attribute name [.text s]] =
          .ok [.style (attributeName name) object]) := by
  refine ⟨fun hs => ?_, fun hs name hname hstyle => ?_, fun name object hstyle => ?_⟩
  · refine ⟨_, _, _, _, rfl, outcome_branch_text s, References.readMarkup_markupText hs [],
      readBranchText_print s, ?_⟩
    rw [List.nil_append]
    cases hblank : allBlank s with
    | true =>
      have hno : ¬ R.Occurs s := not_occurs_of_allBlank hblank
      rw [(References.decode_eq_self_iff s).mpr hno, if_pos rfl]
      exact ⟨fun h => ⟨hno, fun _ => h⟩, fun h => h.2 rfl⟩
    | false =>
      rw [if_neg Bool.false_ne_true, References.decode_eq_self_iff]
      exact ⟨fun h => ⟨h, nofun⟩, fun h => h.1⟩
  · exact ⟨_, _, _, _, attributeOf_text hstyle s, properties_text hstyle s,
      readQuotedValue_attribute (equals_not_mem_attributeName hname) hs,
      readEntryText_object (attributeName name) s, References.decode_eq_self_iff s⟩
  · unfold attributeOf
    rw [properties_attribute, property, if_pos hstyle, if_pos hstyle]
    cases style room [.text s] with
    | error fault => exact ⟨nofun, nofun⟩
    | ok o =>
      refine ⟨fun h => ?_, fun h => ?_⟩
      · cases h
        rfl
      · cases h
        rfl

theorem literal_denotes_other_ampersand :
    (∃ markup x t u, (renderNode {} 0 false (.text "x &amp; y".toList)).outcome = .ok markup ∧
      (branch {} 0 [.text "x &amp; y".toList]).outcome = .ok x ∧
      References.five.readMarkup [] markup = some t ∧ readBranchText x.print = some u ∧ t ≠ u) ∧
    ∃ a ps v w, attributeOf 0 "title".toList [.text "x &amp; y".toList] = .ok a ∧
      properties 0 [.attribute "title".toList [.text "x &amp; y".toList]] = .ok ps ∧
      readQuotedValue References.five a.print = some v ∧
      readEntryText (Jsx.object (Property.printAll ps)) = some w ∧ v ≠ w := by
  have hname : IsAttributeName "title".toList :=
    ⟨List.cons_ne_nil _ _, List.all_eq_true.mp (by decide)⟩
  have hoccurs : References.five.Occurs "x &amp; y".toList :=
    References.occurs_basic List.mem_cons_self "x ".toList " y".toList
  obtain ⟨hcontent, hattribute, -⟩ :=
    literal_denotes_same_iff References.five {} 0 "x &amp; y".toList
  obtain ⟨markup, x, t, u, hmarkup, hx, ht, hu, hiff⟩ := hcontent (by decide)
  obtain ⟨a, ps, v, w, ha, hps, hv, hw, hvalue⟩ := hattribute (by decide) _ hname rfl
  exact ⟨⟨markup, x, t, u, hmarkup, hx, ht, hu, fun h => (hiff.mp h).1 hoccurs⟩,
    a, ps, v, w, ha, hps, hv, hw, fun h => hvalue.mp h hoccurs⟩

end Stencil.Lower
