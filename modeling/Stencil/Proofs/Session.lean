import Mathlib.Data.List.Forall2
import Stencil.Proofs.Lower.Supported

/-!
# Sessions

A session carries the imports of the last template from one template to the next, half of them if
its markup had a fault. This changes nothing in what the next template is compiled to: each step of
a run has the outcome of a compilation of its own (`Session.run_answers`), and after a template that
was compiled the imports are the one line for the markup parser if an expression in its content is
put out as markup, and none otherwise.

For the second part every such expression has to be rendered, at whatever depth, and none in an
attribute may count. `Rendering.Spares r c` says that a rendering that comes to its end leaves the
parser alone exactly if `c`, and there is one such statement for each way in which lowering composes
renderings.
-/

namespace Stencil

open Node

/-! ## The account of a rendering -/

namespace Rendering

variable {α β : Type} {r : Rendering α} {c d : Prop}

/-- If something is rendered, the parser is not called exactly if `c` holds. -/
def Spares (r : Rendering α) (c : Prop) : Prop :=
  ∀ a, r.outcome = .ok a → (r.callsParser = false ↔ c)

namespace Spares

theorem congr (h : Spares r c) (hcd : c ↔ d) : Spares r d := fun a ha => (h a ha).trans hcd

theorem pure (a : α) (hc : c) : Spares (Pure.pure a) c := fun _ _ => iff_of_true rfl hc

theorem ofOutcome (outcome : Except Lower.Fault α) (hc : ∀ a, outcome = .ok a → c) :
    Spares (.ofOutcome outcome) c := fun a ha => iff_of_true rfl (hc a ha)

theorem bind {f : α → Rendering β} (h : Spares r c) (hf : ∀ a, Spares (f a) d) :
    Spares (r >>= f) (c ∧ d) := by
  obtain ⟨calls, outcome⟩ := r
  cases outcome with
  | error fault => exact nofun
  | ok a =>
    intro b hb
    have hcalls :
        (Rendering.mk calls (.ok a) >>= f).callsParser = (calls || (f a).callsParser) := rfl
    rw [hcalls, Bool.or_eq_false_iff]
    exact and_congr (h a rfl) (hf a b hb)

theorem map (h : Spares r c) (f : α → β) : Spares (r >>= fun a => Pure.pure (f a)) c :=
  (h.bind fun a => .pure (f a) trivial).congr (and_iff_left trivial)

end Spares

end Rendering

/-! ## Expressions put out as markup -/

namespace Node

def isInterpolated : Node → Bool
  | .interpolated _ => true
  | _ => false

/-- A node of content is not put out as markup. -/
def Quiet (p : Site) (n : Node) : Prop := p = .content → n.isInterpolated = false

theorem quiet_prose {p : Site} {n : Node} (h : (n.isText || n.isComment) = true) :
    Throughout Quiet p n := by
  cases n with
  | text | comment => exact (throughout_leaf rfl).mpr fun _ => rfl
  | _ => cases h

theorem quiet_conditional {p : Site} {test : Text} {yes : List Node} {no : Option (List Node)} :
    Throughout Quiet p (.conditional test yes no) ↔
      Everywhere Quiet p yes ∧ EverywhereBranch Quiet p no :=
  throughout_conditional.trans (and_iff_right fun _ => rfl)

/-- What stands in a placed node of an area or a value is no content. -/
theorem groups_ne_content {z : Zone} {n : Node} {g : Site × List Node} (h : Placed z n)
    (hz : z.site ≠ .content) (hg : g ∈ n.groups z.site) : g.1 ≠ .content := by
  cases n with
  | text | comment | encoded | interpolated | evaluated | foreign => cases hg
  | «attribute» name parts =>
    obtain rfl := List.mem_singleton.mp hg
    exact nofun
  | element tag attributes children => exact (hz (h.1 ▸ rfl)).elim
  | iterator iterable binder children =>
    obtain rfl := List.mem_singleton.mp hg
    exact hz
  | conditional test children alternate =>
    cases alternate with
    | none =>
      obtain rfl := List.mem_singleton.mp hg
      exact hz
    | some alternate =>
      simp only [groups, List.mem_cons, List.not_mem_nil, or_false] at hg
      rcases hg with rfl | rfl <;> exact hz
  | document => exact h.elim

/-- No content stands in the attribute area of a placed element, at any depth. -/
theorem site_ne_content {p q : Site} {ns ms : List Node} (hi : Inside p ns q ms)
    (hp : p ≠ .content) (h : ns = [.text []] ∨ ∃ z : Zone, z.site = p ∧ PlacedAll z ns) :
    q ≠ .content := by
  induction hi with
  | here => exact hp
  | within hn hg hi ih =>
    rcases h with rfl | ⟨z, rfl, h⟩
    · cases List.mem_singleton.mp hn
      cases hg
    · have hplaced := placed_of_mem h hn
      refine ih (groups_ne_content hplaced hp hg) ?_
      rcases placed_groups hplaced hg with ⟨-, hempty⟩ | ⟨z', hz', h', -⟩
      · cases hempty
        exact .inl rfl
      · exact .inr ⟨z', hz', h'⟩

theorem quiet_area {tag : Text} {area : List Node} (h : PlacedAll (.area tag) area) :
    Everywhere Quiet .area area := fun _ _ hi _ _ hq =>
  (site_ne_content hi nofun (.inr ⟨.area tag, rfl, h⟩) hq).elim

end Node

namespace Lower

open Rendering (Spares)

theorem branchOf_spares {ns : List Node} {content : Rendering (List Jsx.Child)}
    (h : Spares content (Everywhere Quiet .content ns)) :
    Spares (branchOf ns content) (Everywhere Quiet .content ns) := by
  unfold branchOf
  dsimp only
  split
  next hempty =>
    refine .pure _ ((everywhere_meaningful quiet_prose).mp ?_)
    rw [List.isEmpty_iff.mp hempty]
    exact everywhere_nil
  next =>
    split
    next htext =>
      refine .pure _ ((everywhere_meaningful quiet_prose).mp (everywhere_iff.mpr fun n hn => ?_))
      exact quiet_prose (by rw [List.all_eq_true.mp htext n hn, Bool.true_or])
    next => exact .map h _

mutual

theorem child_spares (config : Config) : ∀ (n : Node) {room : Nat}, Placed .content n →
    Spares (child config room n) (Throughout Quiet .content n)
  | .text _, _, _ | .comment _, _, _ | .encoded _, _, _ =>
    .pure _ ((throughout_leaf rfl).mpr fun _ => rfl)
  | .interpolated _, _, _ => fun _ _ =>
    iff_of_false nofun fun h => nomatch (throughout_leaf rfl).mp h rfl
  | .evaluated _, _, _ => .ofOutcome _ fun _ _ => (throughout_leaf rfl).mpr fun _ => rfl
  | .attribute .., _, h => h.elim
  | .element .., 0, _ | .conditional .., 0, _ | .iterator .., 0, _ => nofun
  | .element tag area content, room + 1, h => by
    obtain ⟨-, -, harea, hcontent, -⟩ := h
    rw [child]
    have hquiet : Throughout Quiet .content (.element tag area content) ↔
        True ∧ Everywhere Quiet .content content := by
      simp [throughout_element, Quiet, isInterpolated, quiet_area harea]
    refine .congr (.bind (.ofOutcome _ fun _ _ => trivial) fun _ => ?_) hquiet.symm
    split
    next hvoid =>
      rw [List.isEmpty_iff.mp (Bool.and_eq_true_iff.mp hvoid).2]
      exact .pure _ everywhere_nil
    next =>
      have hskip (n : Node) (hn : n.isComment = true) : (n.isText || n.isComment) = true := by
        rw [hn, Bool.or_true]
      exact .map (children_spares config (hskip _) content hcontent) _
  | .conditional test yes no, room + 1, h => by
    obtain ⟨-, hyes, hno⟩ := h
    rw [child]
    refine .congr ?_ quiet_conditional.symm
    exact .bind (branchOf_spares (children_spares config prose_of_isBlank yes hyes)) fun _ =>
      .map (elseBranch_spares config no hno) _
  | .iterator _ _ body, room + 1, h => by
    rw [child]
    refine .congr (.map (branchOf_spares (children_spares config prose_of_isBlank body h.2)) _) ?_
    exact (throughout_iterator.trans (and_iff_right fun _ => rfl)).symm
  | .document _, _, h | .foreign, _, h => h.elim

theorem children_spares (config : Config) {room : Nat} {skip : Node → Bool}
    (hskip : ∀ {n}, skip n = true → (n.isText || n.isComment) = true) :
    ∀ ns : List Node, PlacedAll .content ns →
      Spares (children config room skip ns) (Everywhere Quiet .content ns)
  | [], _ => .pure _ everywhere_nil
  | n :: ns, h => by
    have hrest : Spares (children config room skip ns) (Everywhere Quiet .content ns) :=
      children_spares config hskip ns h.2
    rw [children]
    refine .congr ?_ everywhere_cons.symm
    split
    next hn => exact .congr hrest (and_iff_right (quiet_prose (hskip hn))).symm
    next => exact .bind (child_spares config n h.1) fun _ => .map hrest _

theorem elseBranch_spares (config : Config) {room : Nat} : ∀ ns : Option (List Node),
    PlacedBranch .content ns →
      Spares (elseBranch config room ns) (EverywhereBranch Quiet .content ns)
  | none, _ => .pure _ trivial
  | some ns, h => branchOf_spares (children_spares config prose_of_isBlank ns h)

end

end Lower

namespace Document

/-- An expression stands in the content of the document, at any depth, that is put out as markup. -/
def Interpolates (d : Document) : Prop :=
  ∃ ns code, Inside .content d .content ns ∧ .interpolated code ∈ ns

theorem not_interpolates_iff {d : Document} :
    ¬ Interpolates d ↔ Everywhere Quiet .content d := by
  constructor
  · intro h q ns hi n hn hq
    subst hq
    cases n with
    | interpolated code => exact (h ⟨ns, code, hi, hn⟩).elim
    | _ => rfl
  · rintro h ⟨ns, code, hi, hn⟩
    cases h _ _ hi _ hn rfl

theorem quiet_body {d : Document} :
    Everywhere Quiet .content (body d) ↔ Everywhere Quiet .content d := by
  simp only [everywhere_iff]
  constructor
  · intro h n hn
    rw [← List.takeWhile_append_dropWhile (p := isPrelude) (l := d)] at hn
    rcases List.mem_append.mp hn with hn | hn
    · have hprelude := List.all_eq_true.mp List.all_takeWhile n hn
      cases n with
      | text | comment | evaluated => exact (throughout_leaf rfl).mpr fun _ => rfl
      | _ => cases hprelude
    · exact h n hn
  · exact fun h n hn => h n (body_subset d hn)

/-- The rendering of a parsed document calls the parser exactly if the document interpolates. -/
theorem lower_spares (config : Config) (limit : Nat) {t : Text} {d : Document}
    (h : parse t = .ok d) : (lower config limit d).Spares (¬ Interpolates d) := by
  have hplaced (n : Node) (hn : n ∈ body d) : Placed .content n :=
    placed_of_mem (placed_of_parse h) (body_subset d hn)
  rw [not_interpolates_iff, ← quiet_body]
  unfold lower
  split
  next iterable binder content hsiblings =>
    have hn : Node.iterator iterable binder content ∈ body d := by
      have hmem : Node.iterator iterable binder content ∈ meaningful (body d) := by simp [hsiblings]
      exact (List.mem_filter.mp hmem).1
    refine .congr (.map (Lower.child_spares config _ (hplaced _ hn)) _) ?_
    rw [← Lower.everywhere_meaningful quiet_prose, hsiblings]
    exact everywhere_singleton.symm
  next =>
    exact Lower.branchOf_spares
      (Lower.children_spares config Lower.prose_of_isBlank _ (placedAll_of_forall hplaced))

end Document

/-! ## Runs -/

/-- What is shown of an outcome: the source of the component, or the report on the template. -/
def shown (file : Text) : Except CompileError Component → Except Report Text
  | .ok component => .ok component.source
  | .error error => .error (error.report file)

/-- The source that a template in a file is compiled to by itself, or the report on it. -/
def generate (config : Config) (limit : Nat) (template file : Text) : Except Report Text :=
  shown file (compile config template limit)

namespace Session

/-- Compiles templates, each with its file, one after another: what is shown of each outcome, and
the session after it. -/
def run (s : Session) : List (Text × Text) → List (Except Report Text × Session)
  | [] => []
  | (template, file) :: steps =>
    match s.compile template with
    | (outcome, s) => (shown file outcome, s) :: s.run steps

theorem imports_reset_record {α : Type} (s : Session) (r : Rendering α) :
    (s.reset.record r).imports = Document.imports s.config r := by
  unfold reset record Document.imports
  cases r.callsParser <;> rfl

@[simp] theorem config_record {α : Type} (s : Session) (r : Rendering α) :
    (s.record r).config = s.config := by
  unfold record
  dsimp only
  split <;> rfl

@[simp] theorem config_reset (s : Session) : s.reset.config = s.config := rfl

@[simp] theorem limit_record {α : Type} (s : Session) (r : Rendering α) :
    (s.record r).limit = s.limit := by
  unfold record
  dsimp only
  split <;> rfl

@[simp] theorem limit_reset (s : Session) : s.reset.limit = s.limit := rfl

/-- What a session remembers has no part in what it compiles. -/
theorem compile_fst (s : Session) (template : Text) :
    (s.compile template).1 = Stencil.compile s.config template s.limit := by
  unfold compile Stencil.compile Document.toComponent Document.assemble
  cases parse template with
  | error error => rfl
  | ok d =>
    dsimp only
    cases (Document.lower s.config s.limit d).outcome with
    | error fault => rfl
    | ok x => simp only [imports_reset_record, config_record, config_reset]

theorem config_compile (s : Session) (template : Text) :
    (s.compile template).2.config = s.config := by
  unfold compile
  cases parse template with
  | error error => rfl
  | ok d =>
    dsimp only
    cases (Document.lower s.config s.limit d).outcome <;> simp only [config_record, config_reset]

theorem limit_compile (s : Session) (template : Text) :
    (s.compile template).2.limit = s.limit := by
  unfold compile
  cases parse template with
  | error error => rfl
  | ok d =>
    dsimp only
    cases (Document.lower s.config s.limit d).outcome <;> simp only [limit_record, limit_reset]

/-- After a template that was compiled, the session has the imports of its document. -/
theorem imports_compile {s : Session} {template : Text} {c : Component}
    (h : (s.compile template).1 = .ok c) :
    ∃ d, parse template = .ok d ∧
      (s.compile template).2.imports =
        Document.imports s.config (Document.lower s.config s.limit d) ∧
      ∃ x, (Document.lower s.config s.limit d).outcome = .ok x := by
  unfold compile at h ⊢
  cases hparse : parse template with
  | error error =>
    rw [hparse] at h
    cases h
  | ok d =>
    rw [hparse] at h
    dsimp only at h ⊢
    cases hlower : (Document.lower s.config s.limit d).outcome with
    | error fault =>
      rw [hlower] at h
      cases h
    | ok x => exact ⟨d, rfl, imports_reset_record .., x, hlower⟩

/-- What a step of a run shows is what the template is compiled to by itself, and the imports after
a template that was compiled are those that its content asks for. -/
structure Answers (config : Config) (limit : Nat) (step : Text × Text)
    (answer : Except Report Text × Session) : Prop where
  outcome : answer.1 = generate config limit step.1 step.2
  imports : ∀ source, answer.1 = .ok source → ∃ d, parse step.1 = .ok d ∧
    (Document.Interpolates d → answer.2.imports = [config.parserImport]) ∧
    (¬ Document.Interpolates d → answer.2.imports = [])

theorem answers_compile (s : Session) (template file : Text) :
    Answers s.config s.limit (template, file)
      (shown file (s.compile template).1, (s.compile template).2) := by
  constructor
  · rw [compile_fst]
    rfl
  · intro source hsource
    cases hc : (s.compile template).1 with
    | error error =>
      rw [hc] at hsource
      cases hsource
    | ok c =>
      obtain ⟨d, hd, himports, x, hx⟩ := imports_compile hc
      have hspares := Document.lower_spares s.config s.limit hd x hx
      refine ⟨d, hd, fun hi => ?_, fun hi => ?_⟩
      · have hcalls : (Document.lower s.config s.limit d).callsParser = true := by
          rw [← Bool.not_eq_false, hspares]
          exact not_not_intro hi
        rw [himports, Document.imports, if_pos hcalls]
      · rw [himports, Document.imports, hspares.mpr hi]
        rfl

/-- Whatever a session has gone through, each template is compiled as by itself. -/
theorem run_answers (config : Config) (limit : Nat) (steps : List (Text × Text)) :
    List.Forall₂ (Answers config limit) steps ((start config limit).run steps) := by
  have hrun (s : Session) (hconfig : s.config = config) (hlimit : s.limit = limit) :
      List.Forall₂ (Answers config limit) steps (s.run steps) := by
    induction steps generalizing s with
    | nil => exact .nil
    | cons step steps ih =>
      obtain ⟨template, file⟩ := step
      have hnext := ih (s.compile template).2 ((config_compile s template).trans hconfig)
        ((limit_compile s template).trans hlimit)
      exact .cons (hconfig ▸ hlimit ▸ answers_compile s template file) hnext
  exact hrun (start config limit) rfl rfl

end Session

end Stencil
