import Stencil.Proofs.Builder
import Stencil.Proofs.LineBreak

/-!
# Parsing and linear forms

A template is parsed to a tree exactly if it is scanned to the end and its tokens are a linear form
of the tree (`parse_eq_ok_iff`). A template that is scanned to the end and is refused has a fault of
structure.
-/

namespace Stencil

open Text Node

theorem Scan.build_eq_ok_iff {s : Scan} {source : Text} {d : Document} :
    s.build source = .ok d ↔ Builder.empty.run s.events = .ok ⟨d, []⟩ ∧ s.error = none := by
  unfold Scan.build
  split
  · next h => simp [h]
  · next b h =>
    split
    · next he => simp [he]
    · next he =>
      obtain ⟨root, frames⟩ := b
      cases frames <;> simp [h, he, Builder.finish]

/-- A scan without a fault is built to a tree, or has a fault of structure. -/
theorem Scan.build_structural {s : Scan} {source : Text} (hs : s.error = none)
    (h : ∀ d, s.build source ≠ .ok d) :
    ∃ fault position, s.build source = .error ⟨.structural fault, position, source⟩ := by
  unfold Scan.build at h ⊢
  split
  · exact ⟨_, _, rfl⟩
  · next b hb =>
    simp only [hb, hs] at h ⊢
    cases hf : b.finish with
    | ok d => exact absurd (by rw [hf]) (h d)
    | error e => exact ⟨_, _, rfl⟩

/-- The tokens of a template form a stream. -/
theorem stream_of_tokens? {t : Text} {ts : List Token}
    (h : (scan (collapseLineBreaks t)).tokens? = some ts) : Stream .content ts :=
  Zone.stream_of_read (lineFeed_not_mem_collapseLineBreaks t) h

theorem tokens?_eq_some {s : Scan} {ts : List Token} :
    s.tokens? = some ts ↔ s.error = none ∧ s.events.map Event.token = ts := by
  unfold Scan.tokens?
  cases s.error <;> simp

theorem parse_eq_ok_iff {t : Text} {d : Document} :
    parse t = .ok d ↔
      ∃ ts, (scan (collapseLineBreaks t)).tokens? = some ts ∧ LinearAll d ts := by
  refine Scan.build_eq_ok_iff.trans ⟨fun ⟨hr, he⟩ => ?_, fun ⟨ts, ht, hl⟩ => ?_⟩
  · have ht := tokens?_eq_some.mpr ⟨he, rfl⟩
    exact ⟨_, ht, (Builder.run_eq_ok_iff (stream_of_tokens? ht)).mp hr⟩
  · obtain ⟨he, rfl⟩ := tokens?_eq_some.mp ht
    exact ⟨(Builder.run_eq_ok_iff (stream_of_tokens? ht)).mpr hl, he⟩

/-- Whatever is parsed stands where it can. -/
theorem placed_of_parse {t : Text} {d : Document} (h : parse t = .ok d) :
    PlacedAll .content d := by
  obtain ⟨ts, ht, hl⟩ := parse_eq_ok_iff.mp h
  have hs := stream_of_tokens? ht
  rw [← List.append_nil ts] at hs
  exact (hl.placed hs).1

/-- Of the templates that are scanned to the end, exactly those are parsed whose tokens are a linear
form of a tree, and they are parsed to that tree. The others have a fault of structure. -/
theorem parse_iff_linear (t : Text) (es : List Event)
    (h : scan (collapseLineBreaks t) = ⟨es, none⟩) :
    (∀ d, parse t = .ok d ↔ LinearAll d (es.map Event.token)) ∧
      ((∀ d, ¬ LinearAll d (es.map Event.token)) →
        ∃ fault position,
          parse t = .error ⟨.structural fault, position, collapseLineBreaks t⟩) := by
  have ht : (scan (collapseLineBreaks t)).tokens? = some (es.map Event.token) := by
    rw [h]
    rfl
  have hiff : ∀ d, parse t = .ok d ↔ LinearAll d (es.map Event.token) := by
    intro d
    rw [parse_eq_ok_iff, ht]
    simp
  refine ⟨hiff, fun hnone => ?_⟩
  exact Scan.build_structural (by rw [h]) fun d hd => hnone d ((hiff d).mp hd)

/-- An else-if in a tag: the second conditional is the whole alternate of the first one. -/
theorem parse_else_if_in_tag :
    parse "<br \x7b\x7b? x\x7d\x7db\x7b\x7b?? y\x7d\x7dc\x7b\x7b?\x7d\x7d>".toList =
      .ok [.element "br".toList
        [.conditional ['x'] [.attribute ['b'] []]
          (some [.conditional ['y'] [.attribute ['c'] []] none])]
        []] := by
  have h : scan (collapseLineBreaks
      "<br \x7b\x7b? x\x7d\x7db\x7b\x7b?? y\x7d\x7dc\x7b\x7b?\x7d\x7d>".toList) =
      ⟨[⟨0, .openTag "br".toList⟩, ⟨4, .openConditional ['x']⟩, ⟨11, .openAttribute ['b']⟩,
        ⟨12, .closeAttribute⟩, ⟨12, .elseIf ['y']⟩, ⟨20, .openAttribute ['c']⟩,
        ⟨21, .closeAttribute⟩, ⟨21, .closeConditional⟩, ⟨26, .stopAttributes⟩,
        ⟨26, .closeTag "br".toList⟩], none⟩ := by
    cbv
  have hfirst : LinearAll [.attribute ['b'] []] [.openAttribute ['b'], .closeAttribute] :=
    .singleton (.attribute .nil)
  have hsecond : LinearAll [.attribute ['c'] []] [.openAttribute ['c'], .closeAttribute] :=
    .singleton (.attribute .nil)
  exact ((parse_iff_linear _ _ h).1 _).mpr
    (.singleton (.element (.singleton (.conditional hfirst (.elseIf hsecond .absent))) .nil))

end Stencil
