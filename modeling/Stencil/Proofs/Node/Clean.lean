import Stencil.Proofs.Node.Site
import Stencil.Proofs.Parse

/-!
# Parsed documents are clean

Whatever the parser returns is well placed and lexically clean (`Document.clean_of_parse`). The
builder does not see to this: it takes an attribute in content and text in an attribute area. It is
the scanner that lets no such token through in the zone where it would do harm, so the conditions
are read off the zones in which a parsed tree is placed.
-/

namespace Stencil

open Text

/-- The site of the nodes that are read in a zone. -/
def Zone.site : Zone → Site
  | .content => .content
  | .area _ => .area
  | .value _ => .value

namespace Node

def isElement : Node → Bool
  | .element .. => true
  | _ => false

def isAttribute : Node → Bool
  | .attribute .. => true
  | _ => false

/-- The expression, the statements or the test that a node holds. -/
def source? : Node → Option Text
  | .encoded source | .interpolated source | .evaluated source => some source
  | .conditional test _ _ => some test
  | _ => none

/-- The texts that a node holds itself. -/
def texts : Node → List Text
  | .text value | .comment value => [value]
  | .encoded source | .interpolated source | .evaluated source => [source]
  | .attribute name _ => [name]
  | .element tag _ _ => [tag]
  | .iterator iterable binder _ => iterable :: binder.item :: binder.index.toList
  | .conditional test _ _ => [test]
  | .document _ | .foreign => []

theorem placed_of_mem {z : Zone} {n : Node} {ns : List Node} (h : PlacedAll z ns) (hn : n ∈ ns) :
    Placed z n := by
  induction ns with
  | nil => cases hn
  | cons m ns ih =>
    rcases List.mem_cons.mp hn with rfl | hn
    · exact h.1
    · exact ih h.2 hn

/-- The nodes in a placed node are placed, unless they are the part of an empty value. Those in a
value stay in it. -/
theorem placed_groups {z : Zone} {n : Node} {g : Site × List Node} (h : Placed z n)
    (hg : g ∈ n.groups z.site) :
    (n.isAttribute = true ∧ g = (.value, [.text []])) ∨
      ∃ z' : Zone, z'.site = g.1 ∧ PlacedAll z' g.2 ∧ (z.site = .value → z' = z) := by
  cases n with
  | text | comment | encoded | interpolated | evaluated | foreign => cases hg
  | «attribute» name parts =>
    obtain rfl := List.mem_singleton.mp hg
    cases z with
    | content | value => exact h.elim
    | area tag =>
      rcases h.2 with rfl | h
      · exact .inl ⟨rfl, rfl⟩
      · exact .inr ⟨.value tag, rfl, h, fun hvalue => by cases hvalue⟩
  | element tag attributes children =>
    obtain ⟨rfl, -, hattributes, hchildren, -⟩ := h
    simp only [groups, List.mem_cons, List.not_mem_nil, or_false] at hg
    rcases hg with rfl | rfl
    · exact .inr ⟨.area tag, rfl, hattributes, fun hvalue => by cases hvalue⟩
    · exact .inr ⟨.content, rfl, hchildren, fun _ => rfl⟩
  | iterator iterable binder children =>
    obtain rfl := List.mem_singleton.mp hg
    exact .inr ⟨z, rfl, h.2, fun _ => rfl⟩
  | conditional test children alternate =>
    obtain ⟨-, hchildren, halternate⟩ := h
    cases alternate with
    | none =>
      obtain rfl := List.mem_singleton.mp hg
      exact .inr ⟨z, rfl, hchildren, fun _ => rfl⟩
    | some alternate =>
      simp only [groups, List.mem_cons, List.not_mem_nil, or_false] at hg
      rcases hg with rfl | rfl
      · exact .inr ⟨z, rfl, hchildren, fun _ => rfl⟩
      · exact .inr ⟨z, rfl, halternate, fun _ => rfl⟩
  | document => exact h.elim

/-- Whatever stands in placed nodes is placed, unless it is the part of an empty value. -/
theorem placed_of_inside {z : Zone} {p q : Site} {ns ms : List Node} {n : Node}
    (h : PlacedAll z ns) (hz : z.site = p) (hi : Inside p ns q ms) (hn : n ∈ ms) :
    (q = .value ∧ n = .text []) ∨ ∃ z' : Zone, z'.site = q ∧ Placed z' n := by
  induction hi generalizing z with
  | here => exact .inr ⟨z, hz, placed_of_mem h hn⟩
  | within hm hg hi ih =>
    subst hz
    rcases placed_groups (placed_of_mem h hm) hg with ⟨-, hempty⟩ | ⟨z', hz', h', -⟩
    · cases hempty
      cases hi with
      | here => exact .inl ⟨rfl, List.mem_singleton.mp hn⟩
      | within hm hg =>
        cases List.mem_singleton.mp hm
        cases hg
    · exact ih h' hz' hn

/-- A value that is not empty has no empty text in it. -/
theorem emptyText_not_mem {tag : Text} {p q : Site} {ns ms : List Node}
    (h : PlacedAll (.value tag) ns) (hp : p = .value) (hi : Inside p ns q ms) :
    .text [] ∉ ms := by
  induction hi with
  | here =>
    intro hm
    have hrun : IsRun '\x22' [] := placed_of_mem h hm
    exact hrun.nonempty rfl
  | @within _ _ _ _ _ _ n hm hg _ ih =>
    subst hp
    have hn := placed_of_mem h hm
    rcases placed_groups (z := .value tag) hn hg with ⟨ha, -⟩ | ⟨z, hz, h', hsame⟩
    · cases n with
      | «attribute» => exact hn.elim
      | _ => cases ha
    · cases hsame rfl
      exact ih h' hz.symm

theorem oneLine_of_placed {z : Zone} {n : Node} (h : Placed z n) : ∀ t ∈ n.texts, '\n' ∉ t := by
  cases n with
  | text value =>
    refine List.forall_mem_singleton.mpr ?_
    cases z with
    | content | value => exact IsRun.oneLine h
    | area => exact h.elim
  | comment => exact List.forall_mem_singleton.mpr h.2.oneLine
  | encoded | interpolated | evaluated => exact List.forall_mem_singleton.mpr (IsSource.oneLine h)
  | «attribute» =>
    refine List.forall_mem_singleton.mpr ?_
    cases z with
    | area => exact h.1.oneLine
    | content | value => exact h.elim
  | element => exact List.forall_mem_singleton.mpr h.2.1.oneLine
  | iterator iterable binder children =>
    have hheader : IsHeader iterable binder := h.1
    refine List.forall_mem_cons.mpr ⟨hheader.oneLine, List.forall_mem_cons.mpr
      ⟨oneLine_name hheader.item, fun i hi => ?_⟩⟩
    exact oneLine_name (hheader.index i (Option.mem_toList.mp hi))
  | conditional => exact List.forall_mem_singleton.mpr h.1.oneLine
  | document | foreign => exact h.elim

end Node

namespace Document

open Node

/-- Everything stands where it belongs, and no text of a node holds what would end it or begin
something else. -/
structure Clean (d : Document) : Prop where
  attributes : ∀ {p ns name parts}, Inside .content d p ns → .attribute name parts ∈ ns → p = .area
  areas : ∀ {ns n}, Inside .content d .area ns → n ∈ ns →
    n.isText = false ∧ n.isComment = false ∧ n.isElement = false
  values : ∀ {ns n}, Inside .content d .value ns → n ∈ ns →
    n.isElement = false ∧ n.isAttribute = false ∧ n.isComment = false
  /-- An empty text is the only part of an attribute, and stands in no directive. -/
  emptyTexts : ∀ {p ns name parts}, Inside .content d p ns → .attribute name parts ∈ ns →
    parts = [.text []] ∨ ∀ q ms, Inside .value parts q ms → .text [] ∉ ms
  voids : ∀ {p ns tag attributes children}, Inside .content d p ns →
    .element tag attributes children ∈ ns → isVoid tag = true → children = []
  contentTexts : ∀ {ns value}, Inside .content d .content ns → .text value ∈ ns →
    value ≠ [] ∧ '<' ∉ value ∧ ¬ ['{', '{'] <:+: value
  valueTexts : ∀ {ns value}, Inside .content d .value ns → .text value ∈ ns →
    '\x22' ∉ value ∧ ¬ ['{', '{'] <:+: value
  sources : ∀ {p ns n source}, Inside .content d p ns → n ∈ ns → n.source? = some source →
    source ≠ [] ∧ trim source = source ∧ ¬ ['}', '}'] <:+: source
  headers : ∀ {p ns iterable binder children}, Inside .content d p ns →
    .iterator iterable binder children ∈ ns →
      iterable ≠ [] ∧ ¬ ['}', '}'] <:+: iterable ∧
        ∀ name ∈ binder.item :: binder.index.toList,
          name ≠ [] ∧ ∀ c ∈ name, Directive.isNameChar c = true
  oneLine : ∀ {p ns n t}, Inside .content d p ns → n ∈ ns → t ∈ n.texts → '\n' ∉ t

theorem clean_of_placed {d : Document} (h : PlacedAll .content d) : Clean d where
  attributes := by
    intro p ns name parts hi hn
    rcases placed_of_inside h rfl hi hn with ⟨-, hn⟩ | ⟨z, rfl, hn⟩
    · cases hn
    · cases z with
      | area => rfl
      | content | value => exact hn.elim
  areas := by
    intro ns n hi hn
    rcases placed_of_inside h rfl hi hn with ⟨hp, -⟩ | ⟨z, hz, hn⟩
    · cases hp
    · cases n with
      | text => cases z <;> first | exact hn.elim | cases hz
      | comment | element => rw [hn.1] at hz; cases hz
      | _ => exact ⟨rfl, rfl, rfl⟩
  values := by
    intro ns n hi hn
    rcases placed_of_inside h rfl hi hn with ⟨-, rfl⟩ | ⟨z, hz, hn⟩
    · exact ⟨rfl, rfl, rfl⟩
    · cases n with
      | comment | element => rw [hn.1] at hz; cases hz
      | «attribute» => cases z <;> first | exact hn.elim | cases hz
      | _ => exact ⟨rfl, rfl, rfl⟩
  emptyTexts := by
    intro p ns name parts hi hn
    rcases placed_of_inside h rfl hi hn with ⟨-, hn⟩ | ⟨z, rfl, hn⟩
    · cases hn
    · cases z with
      | content | value => exact hn.elim
      | area tag => exact hn.2.imp_right fun hparts q ms => emptyText_not_mem hparts rfl
  voids := by
    intro p ns tag attributes children hi hn
    rcases placed_of_inside h rfl hi hn with ⟨-, hn⟩ | ⟨z, rfl, hn⟩
    · cases hn
    · exact hn.2.2.2.2
  contentTexts := by
    intro ns value hi hn
    rcases placed_of_inside h rfl hi hn with ⟨hp, -⟩ | ⟨z, hz, hn⟩
    · cases hp
    · cases z with
      | content =>
        have hrun : IsRun '<' value := hn
        exact ⟨hrun.nonempty, hrun.unstopped, hrun.literal⟩
      | area | value => cases hz
  valueTexts := by
    intro ns value hi hn
    rcases placed_of_inside h rfl hi hn with ⟨-, hn⟩ | ⟨z, hz, hn⟩
    · cases hn
      exact ⟨List.not_mem_nil, by simp⟩
    · cases z with
      | value =>
        have hrun : IsRun '\x22' value := hn
        exact ⟨hrun.unstopped, hrun.literal⟩
      | area | content => cases hz
  sources := by
    intro p ns n source hi hn hs
    rcases placed_of_inside h rfl hi hn with ⟨-, rfl⟩ | ⟨z, rfl, hn⟩
    · cases hs
    · have hsource : IsSource source := by
        cases n with
        | encoded | interpolated | evaluated => cases hs; exact hn
        | conditional => cases hs; exact hn.1
        | _ => cases hs
      exact ⟨hsource.nonempty, trim_of_trimmed hsource.trimmed, hsource.closed⟩
  headers := by
    intro p ns iterable binder children hi hn
    rcases placed_of_inside h rfl hi hn with ⟨-, hn⟩ | ⟨z, rfl, hn⟩
    · cases hn
    · have hheader : IsHeader iterable binder := hn.1
      refine ⟨?_, hheader.closed, List.forall_mem_cons.mpr ⟨hheader.item, fun i hi => ?_⟩⟩
      · rcases hheader.shape with hs | ⟨x, -, -, rfl, -⟩
        · exact hs.nonempty
        · simp
      · exact hheader.index i (Option.mem_toList.mp hi)
  oneLine := by
    intro p ns n t hi hn ht
    rcases placed_of_inside h rfl hi hn with ⟨-, rfl⟩ | ⟨z, rfl, hn⟩
    · cases List.mem_singleton.mp ht
      exact List.not_mem_nil
    · exact oneLine_of_placed hn t ht

/-- Every parsed document is clean. -/
theorem clean_of_parse {t : Text} {d : Document} (h : parse t = .ok d) : Clean d :=
  clean_of_placed (placed_of_parse h)

/-- An empty value, a conditional attribute with a mixed value, a void element and an iteration. -/
def menu : Document :=
  [.element "ul".toList
    [.attribute ['a'] [.text []],
      .conditional ['x'] [.attribute ['b'] [.text ['y'], .encoded ['z']]] none]
    [.text ['t'], .element "br".toList [] [], .iterator ['m'] ⟨['i'], none⟩ [.comment ['c']]]]

def menuTemplate : Text :=
  "<ul a=\"\" \x7b\x7b? x\x7d\x7db=\"y\x7b\x7b! z \x7d\x7d\"\x7b\x7b?\x7d\x7d>\n  t\n ".toList ++
    "<br>\x7b\x7b~ m :i\x7d\x7d<!--c-->\x7b\x7b~\x7d\x7d</ul>".toList

theorem clean_of_parse_menu : parse menuTemplate = .ok menu ∧ Clean menu := by
  have h : parse menuTemplate = .ok menu := by with_unfolding_all rfl
  exact ⟨h, clean_of_parse h⟩

end Document

end Stencil
