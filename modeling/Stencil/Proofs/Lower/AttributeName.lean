import Stencil.Proofs.Event.Lexeme
import Stencil.Proofs.Lower.Room
import Stencil.Proofs.Text.StringLiteral

/-!
# The property that an attribute sets

An attribute of an element sets the property that is written before its equals sign, and an
attribute under a condition the one that is the key of its entry. Both are the attribute's name in
the generated source, except that an element's style attribute is always written `style`. Under a
condition it keeps the letter case of the template, so there `STYLE` sets another property
(`written_name_eq_key_iff`).
-/

namespace Stencil.Lower

open Jsx (Attribute Property)
open Text

/-! ## Reading names -/

/-- The property that a written attribute sets: what stands before the equals sign, or all of it. -/
def writtenName (t : Text) : Text := t.takeWhile (· ≠ '=')

/-- The first entry of a written object: its key, and what follows the colon. -/
def firstEntry? : Text → Option (Text × Text)
  | '{' :: t =>
    match literal? t with
    | some (key, ':' :: ' ' :: rest) => some (key, rest)
    | _ => none
  | _ => none

/-- A name that is all of the attribute or stands before the equals sign. -/
theorem writtenName_of_print {t name : Text} (hname : '=' ∉ name)
    (ht : t = name ∨ ∃ value, t = name ++ '=' :: value) : writtenName t = name := by
  have hall : ∀ c ∈ name, decide (c ≠ '=') = true :=
    fun c hc => decide_eq_true fun h => hname (h ▸ hc)
  unfold writtenName
  rcases ht with rfl | ⟨value, rfl⟩
  · rw [← List.append_nil t, List.takeWhile_append_of_pos hall, List.takeWhile_nil]
  · rw [List.takeWhile_append_of_pos hall, List.takeWhile_cons_of_neg (by decide),
      List.append_nil]

theorem firstEntry?_object (key value : Text) :
    firstEntry? (Jsx.object [asciiLiteral key ++ ": ".toList ++ value]) =
      some (key, value ++ ['}']) := by
  have hjoin : joinWith ", ".toList [asciiLiteral key ++ ": ".toList ++ value] =
      asciiLiteral key ++ (": ".toList ++ value) := by
    rw [← List.append_assoc]
    exact List.flatten_singleton
  have hshape : Jsx.object [asciiLiteral key ++ ": ".toList ++ value] =
      '{' :: (asciiLiteral key ++ ':' :: ' ' :: (value ++ ['}'])) := by
    rw [Jsx.object, hjoin, List.cons_append, List.append_assoc]
    rfl
  rw [hshape, firstEntry?, literal?_asciiLiteral]
  rfl

/-! ## Names in the generated source -/

theorem equals_not_mem_attributeName {name : Text} (h : IsAttributeName name) :
    '=' ∉ attributeName name := by
  unfold attributeName
  cases hlookup : renamedAttributes.lookup (lower name) with
  | none =>
    intro hmem
    exact absurd (h.chars '=' hmem) (by decide)
  | some renamed =>
    have hmem : (lower name, renamed) ∈ renamedAttributes := by
      obtain ⟨before, after, happ, -⟩ := List.lookup_eq_some_iff.mp hlookup
      rw [happ]
      exact List.mem_append_right _ List.mem_cons_self
    have hall : renamedAttributes.all (fun p => !p.2.contains '=') = true := by decide
    have hnot := List.all_eq_true.mp hall _ hmem
    simpa using hnot

/-- A style attribute is not renamed. -/
theorem attributeName_of_isStyle {name : Text} (h : isStyle name = true) :
    attributeName name = name := by
  have hlower : lower name = "style".toList := of_decide_eq_true h
  have hlookup : renamedAttributes.lookup "style".toList = none := by decide
  unfold attributeName
  rw [hlower, hlookup]
  rfl

/-- The property that an attribute of an element sets. -/
def elementProperty (name : Text) : Text :=
  if isStyle name then "style".toList else attributeName name

theorem print_attributeOf {room : Nat} {name : Text} {parts : List Node} {a : Attribute}
    (h : attributeOf room name parts = .ok a) :
    a.print = elementProperty name ∨ ∃ value, a.print = elementProperty name ++ '=' :: value := by
  unfold attributeOf at h
  unfold elementProperty
  split at h
  next hstyle =>
    obtain ⟨object, -, h⟩ := exists_of_bind_eq_ok h
    cases h
    rw [if_pos hstyle]
    exact .inr ⟨Jsx.inBraces object.print, rfl⟩
  next hstyle =>
    rw [if_neg hstyle]
    split at h
    case h_1 =>
      cases h
      exact .inl rfl
    case h_2 | h_3 =>
      cases h
      exact .inr ⟨_, rfl⟩
    case h_4 =>
      split at h
      · cases h
        refine .inr ⟨'\x22' :: Node.literalText parts ++ ['\x22'], ?_⟩
        show _ ++ ['=', '\x22'] ++ _ ++ ['\x22'] = _
        rw [List.append_assoc, List.append_assoc]
        rfl
      · obtain ⟨segments, -, h⟩ := exists_of_bind_eq_ok h
        cases h
        exact .inr ⟨_, rfl⟩

theorem print_property {room : Nat} {name : Text} {parts : List Node} {p : Property}
    (h : property room name parts = .ok p) :
    ∃ value, p.print = asciiLiteral (attributeName name) ++ ": ".toList ++ value := by
  unfold property at h
  split at h
  · obtain ⟨object, -, h⟩ := exists_of_bind_eq_ok h
    cases h
    exact ⟨object.print, rfl⟩
  · split at h
    · cases h
      exact ⟨"true".toList, by rw [List.append_assoc]; rfl⟩
    · obtain ⟨v, -, h⟩ := exists_of_bind_eq_ok h
      cases h
      exact ⟨v.print, rfl⟩

theorem properties_attribute {room : Nat} {name : Text} {parts : List Node} :
    properties room [.attribute name parts] = (property room name parts).map fun p => [p] := by
  rw [properties, propertiesOf, properties]
  cases property room name parts <;> rfl

theorem firstEntry?_properties {room : Nat} {name : Text} {parts : List Node} {ps : List Property}
    (h : properties room [.attribute name parts] = .ok ps) :
    ∃ value, firstEntry? (Jsx.object (Property.printAll ps)) =
      some (attributeName name, value) := by
  rw [properties_attribute] at h
  cases hp : property room name parts with
  | error fault =>
    rw [hp] at h
    cases h
  | ok p =>
    rw [hp] at h
    cases h
    obtain ⟨value, hprint⟩ := print_property hp
    rw [Property.printAll, Property.printAll, hprint]
    exact ⟨_, firstEntry?_object _ value⟩

/-! ## Both places -/

/-- An attribute sets the same property on an element and under a condition, unless it is a style
attribute that is not written in small letters. -/
theorem written_name_eq_key_iff {room more : Nat} {name : Text} {parts : List Node} {a : Attribute}
    {ps : List Property} (hname : IsAttributeName name) (ha : attributeOf room name parts = .ok a)
    (hps : properties more [.attribute name parts] = .ok ps) :
    ∃ key value, firstEntry? (Jsx.object (Property.printAll ps)) = some (key, value) ∧
      (writtenName a.print = key ↔ (isStyle name = true → name = "style".toList)) := by
  obtain ⟨value, hentry⟩ := firstEntry?_properties hps
  refine ⟨attributeName name, value, hentry, ?_⟩
  have hprint := print_attributeOf ha
  by_cases hstyle : isStyle name = true
  · have hproperty : elementProperty name = "style".toList := if_pos hstyle
    rw [hproperty] at hprint
    rw [writtenName_of_print (by decide) hprint, attributeName_of_isStyle hstyle]
    exact ⟨fun h _ => h.symm, fun h => (h hstyle).symm⟩
  · have hproperty : elementProperty name = attributeName name := if_neg hstyle
    rw [hproperty] at hprint
    rw [writtenName_of_print (equals_not_mem_attributeName hname) hprint]
    exact ⟨fun _ h => absurd h hstyle, fun _ => rfl⟩

theorem written_name_ne_key_capitals :
    IsAttributeName "STYLE".toList ∧ ∃ a ps,
      attributeOf 0 "STYLE".toList [.text "color: red".toList] = .ok a ∧
      properties 0 [.attribute "STYLE".toList [.text "color: red".toList]] = .ok ps ∧
      ∃ key value, firstEntry? (Jsx.object (Property.printAll ps)) = some (key, value) ∧
        writtenName a.print ≠ key := by
  have hname : IsAttributeName "STYLE".toList :=
    ⟨List.cons_ne_nil _ _, List.all_eq_true.mp (by decide)⟩
  have ha : attributeOf 0 "STYLE".toList [.text "color: red".toList] =
      .ok (.style (.literal [("color".toList, "red".toList)])) := rfl
  have hps : properties 0 [.attribute "STYLE".toList [.text "color: red".toList]] =
      .ok [.style "STYLE".toList (.literal [("color".toList, "red".toList)])] := rfl
  obtain ⟨key, value, hentry, hiff⟩ := written_name_eq_key_iff hname ha hps
  have hother : "STYLE".toList ≠ "style".toList := by decide
  exact ⟨hname, _, _, ha, hps, key, value, hentry, fun h => hother (hiff.mp h rfl)⟩

end Stencil.Lower
