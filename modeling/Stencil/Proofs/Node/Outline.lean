import Mathlib.Data.List.Forall2
import Stencil.Node.Outline

/-!
# What an outline keeps

An outline loses nothing of a tree: trees with the same outline are equal, whatever nodes stand in
them and wherever they stand (`Node.outline_same_iff`). In particular an index or an alternate that
is not there differs from an empty one, and a flag from an attribute with an empty value.

Two JSON values are the same if they differ at most in the order in which the members of their
objects are written. So only what stands under a key can tell two outlines apart: first the type,
which gives the kind of the node, then the members of that kind.
-/

namespace Stencil

namespace Json

/-- Equality of JSON values. Objects are compared key by key. -/
inductive Same : Json → Json → Prop where
  | null : Same .null .null
  | string (value : Text) : Same (.string value) (.string value)
  | array {xs ys : List Json} (items : List.Forall₂ Same xs ys) : Same (.array xs) (.array ys)
  | object {ms ns : List (Text × Json)}
      (members : ∀ key, Option.Rel Same (ms.lookup key) (ns.lookup key)) :
      Same (.object ms) (.object ns)

mutual

theorem Same.refl : ∀ x : Json, Same x x
  | .null => .null
  | .string value => .string value
  | .array items => .array (Same.refl_items items)
  | .object members => .object fun key => Same.refl_member key members

theorem Same.refl_items : ∀ items : List Json, List.Forall₂ Same items items
  | [] => .nil
  | item :: items => .cons (Same.refl item) (Same.refl_items items)

theorem Same.refl_member (key : Text) :
    ∀ members : List (Text × Json), Option.Rel Same (members.lookup key) (members.lookup key)
  | [] => .none
  | (name, value) :: members => by
    rw [List.lookup_cons]
    cases key == name with
    | true => exact .some (Same.refl value)
    | false => exact Same.refl_member key members

end

theorem Same.string_eq {v w : Text} (h : Same (.string v) (.string w)) : v = w := by
  cases h
  rfl

theorem Same.items {xs ys : List Json} (h : Same (.array xs) (.array ys)) :
    List.Forall₂ Same xs ys := by
  cases h with
  | array items => exact items

end Json

namespace Node

open Json (Same)

/-! ## Objects of an outline -/

theorem lookup_toList (key : String) (members : List (String × Json)) :
    (members.map fun (k, value) => (k.toList, value)).lookup key.toList = members.lookup key := by
  induction members with
  | nil => rfl
  | cons member members ih =>
    have hkey : (key.toList == member.1.toList) = (key == member.1) := by
      rw [Bool.eq_iff_iff, beq_iff_eq, beq_iff_eq, String.toList_inj]
    rw [List.map_cons, List.lookup_cons, List.lookup_cons, hkey, ih]

/-- The same objects name the same type, and their other members are the same. -/
theorem same_outlineOf {s s' : String} {ms ms' : List (String × Json)}
    (h : Same (outlineOf s ms) (outlineOf s' ms')) :
    s = s' ∧ ∀ key, key ≠ "type" → Option.Rel Same (ms.lookup key) (ms'.lookup key) := by
  cases h with
  | object members =>
    constructor
    · have htype := members "type".toList
      rw [List.lookup_cons_self, List.lookup_cons_self] at htype
      cases htype with
      | some hsame => exact String.toList_inj.mp hsame.string_eq
    · intro key hkey
      have hbeq : (key.toList == "type".toList) = false := by
        rw [beq_eq_false_iff_ne, ne_eq, String.toList_inj]
        exact hkey
      have hmember := members key.toList
      rwa [List.lookup_cons, List.lookup_cons, hbeq, lookup_toList, lookup_toList] at hmember

/-- The type that the outline of a node names. A foreign node has none. -/
def typeName? : Node → Option String
  | .text _ => some "text"
  | .comment _ => some "comment"
  | .encoded _ => some "dotEncoded"
  | .interpolated _ => some "dotInterpolated"
  | .evaluated _ => some "dotEvaluated"
  | .attribute .. => some "attribute"
  | .element .. => some "element"
  | .iterator .. => some "dotIterator"
  | .conditional .. => some "dotConditional"
  | .document _ => some "root"
  | .foreign => none

/-- The members of an outline after its type. -/
def members : Node → List (String × Json)
  | .text value | .comment value | .encoded value | .interpolated value | .evaluated value =>
    [("value", .string value)]
  | .attribute name parts => [("name", .string name), ("value", .array (outlineAll parts))]
  | .element tag attributes children =>
    [("name", .string tag), ("attributes", .array (outlineAll attributes)),
      ("children", .array (outlineAll children))]
  | .iterator iterable binder children =>
    [("iterable", .string iterable), ("item", .string binder.item)] ++
      (binder.index.map fun index => ("index", Json.string index)).toList ++
      [("children", .array (outlineAll children))]
  | .conditional test children alternate =>
    [("test", .string test), ("children", .array (outlineAll children))] ++
      outlineBranch alternate
  | .document children => [("children", .array (outlineAll children))]
  | .foreign => []

theorem outline_eq (n : Node) :
    n.outline = match n.typeName? with
      | some type => outlineOf type n.members
      | none => .null := by
  cases n <;> rw [outline] <;> rfl

/-- Nodes with the same outline are of one kind and have the same members, unless they are
foreign. -/
theorem same_members {a b : Node} (h : Same a.outline b.outline) :
    a.typeName? = b.typeName? ∧ (a.typeName?.isSome = true → ∀ key, key ≠ "type" →
      Option.Rel Same (a.members.lookup key) (b.members.lookup key)) := by
  rw [outline_eq a, outline_eq b] at h
  generalize a.typeName? = type at h
  generalize b.typeName? = type' at h
  cases type with
  | none =>
    cases type' with
    | none => exact ⟨rfl, nofun⟩
    | some type' => cases h
  | some type =>
    cases type' with
    | none => cases h
    | some type' =>
      obtain ⟨rfl, hmembers⟩ := same_outlineOf h
      exact ⟨rfl, fun _ => hmembers⟩

theorem lookup_index (iterable : Text) (binder : Binder) (children : List Node) :
    (members (.iterator iterable binder children)).lookup "index" =
      binder.index.map Json.string := by
  cases hindex : binder.index with
  | none => rw [members, hindex]; rfl
  | some index => rw [members, hindex]; rfl

theorem lookup_children (iterable : Text) (binder : Binder) (children : List Node) :
    (members (.iterator iterable binder children)).lookup "children" =
      some (.array (outlineAll children)) := by
  cases hindex : binder.index with
  | none => rw [members, hindex]; rfl
  | some index => rw [members, hindex]; rfl

theorem lookup_alternate (test : Text) (children : List Node) (alternate : Option (List Node)) :
    (members (.conditional test children alternate)).lookup "alternate" =
      alternate.map fun ns => .array (outlineAll ns) := by
  cases alternate with
  | none => rw [members, outlineBranch]; rfl
  | some ns => rw [members, outlineBranch]; rfl

/-! ## Trees with the same outline -/

theorem eq_of_rel_string {v w : Text} (h : Option.Rel Same (some (.string v)) (some (.string w))) :
    v = w := by
  cases h with
  | some hsame => exact hsame.string_eq

theorem items_of_rel_array {xs ys : List Json}
    (h : Option.Rel Same (some (.array xs)) (some (.array ys))) : List.Forall₂ Same xs ys := by
  cases h with
  | some hsame => exact hsame.items

theorem eq_of_rel_index {i j : Option Text}
    (h : Option.Rel Same (i.map Json.string) (j.map Json.string)) : i = j := by
  cases i with
  | none =>
    cases j with
    | none => rfl
    | some j => cases h
  | some i =>
    cases j with
    | none => cases h
    | some j => rw [eq_of_rel_string h]

mutual

theorem eq_of_same_outline : ∀ {a b : Node}, Same a.outline b.outline → a = b
  | .text v, b, h | .comment v, b, h | .encoded v, b, h | .interpolated v, b, h
  | .evaluated v, b, h => by
    obtain ⟨htype, hmember⟩ := same_members h
    cases b <;> simp [typeName?] at htype
    next w => rw [eq_of_rel_string (v := v) (w := w) (hmember rfl "value" (by decide))]
  | .attribute name parts, b, h => by
    obtain ⟨htype, hmember⟩ := same_members h
    cases b with
    | «attribute» name' parts' =>
      have hname : name = name' := eq_of_rel_string (hmember rfl "name" (by decide))
      have hparts := items_of_rel_array (hmember rfl "value" (by decide))
      rw [hname, eq_of_same_outlineAll hparts]
    | _ => simp [typeName?] at htype
  | .element tag attributes children, b, h => by
    obtain ⟨htype, hmember⟩ := same_members h
    cases b with
    | element tag' attributes' children' =>
      have htag : tag = tag' := eq_of_rel_string (hmember rfl "name" (by decide))
      have hattributes := items_of_rel_array (hmember rfl "attributes" (by decide))
      have hchildren := items_of_rel_array (hmember rfl "children" (by decide))
      rw [htag, eq_of_same_outlineAll hattributes, eq_of_same_outlineAll hchildren]
    | _ => simp [typeName?] at htype
  | .iterator iterable binder children, b, h => by
    obtain ⟨htype, hmember⟩ := same_members h
    cases b with
    | iterator iterable' binder' children' =>
      have hiterable : iterable = iterable' :=
        eq_of_rel_string (hmember rfl "iterable" (by decide))
      have hitem : binder.item = binder'.item := eq_of_rel_string (hmember rfl "item" (by decide))
      have hindex := hmember rfl "index" (by decide)
      rw [lookup_index, lookup_index] at hindex
      have hchildren := hmember rfl "children" (by decide)
      rw [lookup_children, lookup_children] at hchildren
      have hbinder : binder = binder' := by
        obtain ⟨item, index⟩ := binder
        obtain ⟨item', index'⟩ := binder'
        rw [Binder.mk.injEq]
        exact ⟨hitem, eq_of_rel_index hindex⟩
      rw [hiterable, hbinder, eq_of_same_outlineAll (items_of_rel_array hchildren)]
    | _ => simp [typeName?] at htype
  | .conditional test children alternate, b, h => by
    obtain ⟨htype, hmember⟩ := same_members h
    cases b with
    | conditional test' children' alternate' =>
      have htest : test = test' := eq_of_rel_string (hmember rfl "test" (by decide))
      have hchildren := items_of_rel_array (hmember rfl "children" (by decide))
      have halternate := hmember rfl "alternate" (by decide)
      rw [lookup_alternate, lookup_alternate] at halternate
      rw [htest, eq_of_same_outlineAll hchildren, eq_of_same_outlineBranch halternate]
    | _ => simp [typeName?] at htype
  | .document children, b, h => by
    obtain ⟨htype, hmember⟩ := same_members h
    cases b with
    | document children' =>
      have hchildren := items_of_rel_array (hmember rfl "children" (by decide))
      rw [eq_of_same_outlineAll hchildren]
    | _ => simp [typeName?] at htype
  | .foreign, b, h => by
    obtain ⟨htype, -⟩ := same_members h
    cases b with
    | foreign => rfl
    | _ => simp [typeName?] at htype

theorem eq_of_same_outlineAll : ∀ {as bs : List Node},
    List.Forall₂ Same (outlineAll as) (outlineAll bs) → as = bs
  | [], [], _ => rfl
  | a :: as, b :: bs, .cons h hs => by
    rw [eq_of_same_outline h, eq_of_same_outlineAll hs]

theorem eq_of_same_outlineBranch : ∀ {as bs : Option (List Node)},
    Option.Rel Same (as.map fun ns => .array (outlineAll ns))
      (bs.map fun ns => .array (outlineAll ns)) → as = bs
  | none, none, _ => rfl
  | some as, some bs, .some h => by rw [eq_of_same_outlineAll h.items]

end

theorem outline?_eq_some_iff {n : Node} {x : Json} :
    n.outline? = some x ↔ n.hasForeign = false ∧ n.outline = x := by
  unfold outline?
  cases n.hasForeign <;> simp

/-- Trees that have an outline have the same one only if they are equal. -/
theorem outline_same_iff {a b : Node} {x y : Json} (ha : a.outline? = some x)
    (hb : b.outline? = some y) : x.Same y ↔ a = b := by
  obtain ⟨-, rfl⟩ := outline?_eq_some_iff.mp ha
  obtain ⟨-, rfl⟩ := outline?_eq_some_iff.mp hb
  constructor
  · exact eq_of_same_outline
  · rintro rfl
    exact .refl a.outline

/-- What is not there differs from what is empty: an index, an alternate, and the value of an
attribute. -/
theorem outline_absent_not_same_empty :
    ¬ Same (outline (.iterator ['x'] ⟨['i'], none⟩ []))
        (outline (.iterator ['x'] ⟨['i'], some []⟩ [])) ∧
      ¬ Same (outline (.conditional ['x'] [] none)) (outline (.conditional ['x'] [] (some []))) ∧
      ¬ Same (outline (.attribute ['x'] [])) (outline (.attribute ['x'] [.text []])) := by
  have hdiffers {a b : Node} (ha : a.hasForeign = false) (hb : b.hasForeign = false)
      (hne : a ≠ b) : ¬ Same a.outline b.outline := by
    intro h
    have ha := outline?_eq_some_iff.mpr ⟨ha, rfl⟩
    have hb := outline?_eq_some_iff.mpr ⟨hb, rfl⟩
    exact hne ((outline_same_iff ha hb).mp h)
  refine ⟨hdiffers ?_ ?_ ?_, hdiffers ?_ ?_ ?_, hdiffers ?_ ?_ ?_⟩
  all_goals decide

end Node

end Stencil
