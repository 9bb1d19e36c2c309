import Stencil.Proofs.Build.Progress

/-!
# What a template has to do with the others

A build compiles all templates in one session and writes all components into one tree. What it makes
of a template is nevertheless what the text of the template says, if no target of an earlier
template is a later template and no other template has its target. What the others can do is to stop
the build before it gets there (`result_eq_result_alone_iff`).
-/

namespace Stencil

open Stencil.Path Text

namespace Build

variable {b : Build} {limit : Nat} {t t' : FileTree} {p q : Path} {text : Text}

/-- What a build has made of a template when it stops: the report on it, if the build comes to its
end, or what it has written to the target. -/
def result (b : Build) (limit : Nat) (t : FileTree) (template : Path) : Option Outcome :=
  match b.run t limit with
  | (.ok summary, tree) =>
    match summary.failed.lookup template with
    | some report => some (.failed report)
    | none => written? summary tree
  | (.error _, tree) => written? (b.all (b.start limit t) (b.templates t)).1.summary tree
where
  written? (summary : Summary) (tree : FileTree) : Option Outcome :=
    if b.target template ∈ summary.compiled then (tree.content? (b.target template)).map .written
    else none

/-- The tree in which the template is the only file below the source. -/
def alone (b : Build) (t : FileTree) (template : Path) : FileTree where
  entries := t.entries.filter fun (l, e) =>
    e = .directory || l = location template || ((location b.source).below? l).isNone
  nodup := t.nodup.sublist (List.filter_sublist.map Prod.fst)

/-- No target of an earlier template is a later one, and no other template has the target of this
one. -/
structure Separate (b : Build) (limit : Nat) (t : FileTree) (template : Path) : Prop where
  sources : ∀ q ∈ b.templates t, ∀ r ∈ b.templates t, q ≠ r → q.le r = true →
    b.Compiles limit t q → location (b.target q) ≠ location r
  targets : ∀ q ∈ b.templates t, b.Compiles limit t q →
    location (b.target q) = location (b.target template) → location q = location template

/-- The build gets as far as the template needs it to: to its end, for a report, and past the
template itself, for a component. -/
def Attains (b : Build) (limit : Nat) (t : FileTree) (template : Path) : Outcome → Prop
  | .failed _ => b.Unobstructed limit t (b.templates t)
  | .written _ => b.Unobstructed limit t ((b.templates t).filter (·.le template))

/-! ## Logs of texts from before the build -/

/-- The templates have been read with the texts that they have in the tree. -/
def Faithful (t : FileTree) (log : Log) : Prop := ∀ q text, (q, text) ∈ log → read t q = .ok text

namespace Faithful

variable {log : Log}

theorem mem_good_iff (h : Faithful t log) :
    q ∈ b.good limit log ↔ q ∈ log.map Prod.fst ∧ b.Compiles limit t q := by
  rw [mem_good]
  constructor
  · rintro ⟨text, hmem, hwritten⟩
    exact ⟨List.mem_map_of_mem hmem, (compiles_iff_of_read (h q text hmem)).mpr hwritten⟩
  · rintro ⟨hmem, hcompiles⟩
    obtain ⟨⟨r, text⟩, hentry, rfl⟩ := List.mem_map.mp hmem
    exact ⟨text, hentry, (compiles_iff_of_read (h r text hentry)).mp hcompiles⟩

theorem mem_reports_iff (h : Faithful t log) {report : Text} :
    (p, report) ∈ b.reports limit log ↔
      p ∈ log.map Prod.fst ∧ b.expected? limit t p = some (.failed report) := by
  rw [mem_reports]
  constructor
  · rintro ⟨text, hmem, hfailed⟩
    exact ⟨List.mem_map_of_mem hmem, hfailed ▸ expected?_of_read (h p text hmem)⟩
  · rintro ⟨hmem, hfailed⟩
    obtain ⟨⟨r, text⟩, hentry, rfl⟩ := List.mem_map.mp hmem
    rw [expected?_of_read (h r text hentry)] at hfailed
    exact ⟨text, hentry, Option.some.inj hfailed⟩

theorem lookup_reports_eq_some_iff (h : Faithful t log) {report : Text} :
    (b.reports limit log).lookup p = some report ↔
      p ∈ log.map Prod.fst ∧ b.expected? limit t p = some (.failed report) := by
  have hfound {found : Text} (hlookup : (b.reports limit log).lookup p = some found) :
      (p, found) ∈ b.reports limit log := by
    obtain ⟨before, after, hsplit, -⟩ := List.lookup_eq_some_iff.mp hlookup
    rw [hsplit]
    exact List.mem_append_right before (List.mem_cons_self ..)
  refine ⟨fun hlookup => h.mem_reports_iff.mp (hfound hlookup), fun hfailed => ?_⟩
  have hsome : ((b.reports limit log).lookup p).isSome = true :=
    List.lookup_isSome_iff.mpr ⟨(p, report), h.mem_reports_iff.mpr hfailed, beq_self_eq_true p⟩
  obtain ⟨found, hlookup⟩ := Option.isSome_iff_exists.mp hsome
  have hexpected := (h.mem_reports_iff.mp (hfound hlookup)).2
  rw [hfailed.2] at hexpected
  cases hexpected
  exact hlookup

end Faithful

section History

variable {log : Log}

/-- If no target is a later template, no template is written over before it is read. -/
theorem History.faithful (h : b.History limit t log)
    (hfresh : (log.map Prod.fst).Pairwise fun q r =>
      b.Compiles limit t q → location (b.target q) ≠ location r) : Faithful t log := by
  induction h with
  | nil => exact nofun
  | @snoc log q text h hread _ ih =>
    rw [List.map_append, List.pairwise_append] at hfresh
    obtain ⟨hlog, -, hlast⟩ := hfresh
    have hfaithful := ih hlog
    have hq : ¬ b.Writes (b.good limit log) (location q) := by
      rintro ⟨r, hr, hlocation⟩
      obtain ⟨hmem, hcompiles⟩ := hfaithful.mem_good_iff.mp hr
      exact hlast r hmem q (List.mem_singleton.mpr rfl) hcompiles hlocation
    intro r text' hmem
    rcases List.mem_append.mp hmem with hmem | hmem
    · exact hfaithful r text' hmem
    · cases List.mem_singleton.mp hmem
      exact hread hq

theorem History.unobstructed (h : b.History limit t log) (hfaithful : Faithful t log) :
    b.Unobstructed limit t (log.map Prod.fst) := by
  induction h with
  | nil => exact ⟨nofun, nofun, nofun⟩
  | @snoc log q text h _ hadmits ih =>
    have hbefore : Faithful t log :=
      fun r text' hmem => hfaithful r text' (List.mem_append_left _ hmem)
    have hread : read t q = .ok text :=
      hfaithful q text (List.mem_append_right log (List.mem_singleton.mpr rfl))
    rw [List.map_append, List.map_singleton, unobstructed_snoc]
    refine ⟨ih hbefore, by rw [expected?_of_read hread]; rfl, fun hcompiles => ?_⟩
    obtain ⟨htree, hfiles, hdirectory⟩ := hadmits ((compiles_iff_of_read hread).mp hcompiles)
    refine ⟨htree, fun r hr hcompiles => ?_⟩
    have hgood := hbefore.mem_good_iff.mpr ⟨hr, hcompiles⟩
    exact ⟨fun hpasses => hfiles _ hpasses ⟨r, hgood, rfl⟩,
      fun hpasses => hdirectory ⟨r, hgood, hpasses⟩⟩

end History

namespace Separate

variable {log : Log} {rest : List Path} {s : Progress}

theorem faithful (hsep : b.Separate limit t p) (h : b.Course limit t log s)
    (hsplit : b.templates t = log.map Prod.fst ++ rest) : Faithful t log := by
  have hfresh := (pairwise_templates b t).imp_of_mem fun hq hr hqr =>
    hsep.sources _ hq _ hr hqr.1 hqr.2
  rw [hsplit] at hfresh
  exact h.history.faithful (List.pairwise_append.mp hfresh).1

/-- A template that a build cannot get past obstructs it, in the tree before the build as well. -/
theorem obstructs (hsep : b.Separate limit t p) (h : b.Course limit t log s)
    (hsplit : b.templates t = log.map Prod.fst ++ q :: rest) (hhalts : b.Halts limit s q) :
    ¬ b.Unobstructed limit t (log.map Prod.fst ++ [q]) := by
  intro hall
  obtain ⟨-, hreadable, hcompiles⟩ := unobstructed_snoc.mp hall
  have hfaithful := hsep.faithful h hsplit
  have hpairwise := pairwise_templates b t
  have hmem {r : Path} (hr : r ∈ log.map Prod.fst ++ q :: rest) : r ∈ b.templates t := hsplit ▸ hr
  have hq : q ∈ b.templates t := hmem (List.mem_append_right _ (List.mem_cons_self ..))
  have hfresh : ¬ b.Writes (b.good limit log) (location q) := by
    rintro ⟨r, hr, hlocation⟩
    obtain ⟨hr, hcompiles⟩ := hfaithful.mem_good_iff.mp hr
    rw [hsplit] at hpairwise
    obtain ⟨hne, hle⟩ :=
      (List.pairwise_append.mp hpairwise).2.2 r hr q (List.mem_cons_self ..)
    exact hsep.sources r (hmem (List.mem_append_left _ hr)) q hq hne hle hcompiles hlocation
  have hread := h.read_eq (isFile_of_mem_templates hq) hfresh
  cases htext : read t q with
  | error fault =>
    rw [expected?, htext] at hreadable
    cases hreadable
  | ok text =>
    obtain ⟨hwritten, hnot⟩ := hhalts text (hread.trans htext)
    obtain ⟨hadmits, hapart⟩ := hcompiles ((compiles_iff_of_read htext).mpr hwritten)
    refine hnot (h.overlaid.admits_iff.mpr ⟨hadmits, ?_, ?_⟩)
    · rintro l hl ⟨r, hr, rfl⟩
      obtain ⟨hr, hcompiles⟩ := hfaithful.mem_good_iff.mp hr
      exact (hapart r hr hcompiles).1 hl
    · rintro ⟨r, hr, hpasses⟩
      obtain ⟨hr, hcompiles⟩ := hfaithful.mem_good_iff.mp hr
      exact (hapart r hr hcompiles).2 hpasses

end Separate

/-! ## Results -/

/-- The content of a file is at its location, so two templates there compile to the same. -/
theorem written_of_location_eq {content : List UInt8} (hp : t.isFile p = true)
    (hpq : location q = location p) (hq : b.expected? limit t q = some (.written content)) :
    b.expected? limit t p = some (.written content) := by
  obtain ⟨bytes, hbytes⟩ := Option.isSome_iff_exists.mp hp
  have hloc := (FileTree.find?_eq_some_iff.mp (FileTree.content?_eq_some_iff.mp hbytes)).2
  cases hcontent : t.content? q with
  | none =>
    rw [expected?, read, hcontent] at hq
    cases hq
  | some found =>
    have hfound := (FileTree.find?_eq_some_iff.mp (FileTree.content?_eq_some_iff.mp hcontent)).2
    rw [hpq, hloc] at hfound
    cases hfound
    have hread : read t p = read t q := by rw [read, read, hbytes, hcontent]
    unfold expected? at hq ⊢
    rw [hread]
    cases hq' : read t q with
    | error fault =>
      rw [hq'] at hq
      cases hq
    | ok text =>
      rw [hq'] at hq
      dsimp only at hq ⊢
      unfold outcome at hq ⊢
      cases hcompile : Stencil.compile b.config text limit with
      | error error =>
        rw [hcompile] at hq
        cases hq
      | ok component =>
        rw [hcompile] at hq
        exact hq

/-- The target of a template holds what the template compiles to, since all templates that have this
target compile to the same. -/
theorem Course.content?_target {log : Log} {s : Progress} {content : List UInt8}
    (h : b.Course limit t log s) (hfaithful : Faithful t log)
    (hsub : log.map Prod.fst ⊆ b.templates t) (hsep : b.Separate limit t p)
    (hp : p ∈ log.map Prod.fst) (hexpected : b.expected? limit t p = some (.written content)) :
    s.tree.content? (b.target p) = some content := by
  have hcompiles : b.Compiles limit t p := ⟨content, hexpected⟩
  have hgood : p ∈ b.good limit log := hfaithful.mem_good_iff.mpr ⟨hp, hcompiles⟩
  obtain ⟨q, text, found, hmem, hlocation, houtcome, hget⟩ := h.held _ ⟨p, hgood, rfl⟩
  have hq := hsub (List.mem_map_of_mem hmem)
  have hfound : b.expected? limit t q = some (.written found) :=
    houtcome ▸ expected?_of_read (hfaithful q text hmem)
  have hqp := hsep.targets q hq ⟨found, hfound⟩ hlocation
  have hsame := written_of_location_eq (isFile_of_mem_templates (hsub hp)) hqp hfound
  rw [hexpected] at hsame
  cases hsame
  have hadmits := (h.history.unobstructed hfaithful).writable p hp hcompiles
  rw [FileTree.content?_eq_some_iff, FileTree.find?_eq_some_iff]
  exact ⟨⟨hadmits.fits, fun l hl => (h.overlaid.directory_iff l).mpr (.inr ⟨p, hgood, hl⟩)⟩, hget⟩

/-- If the target of a template has been written, the template has been compiled. -/
theorem mem_good_of_target_mem {log : Log} (hfaithful : Faithful t log)
    (hsub : log.map Prod.fst ⊆ b.templates t) (hp : p ∈ b.templates t)
    (hsep : b.Separate limit t p) (h : b.target p ∈ (b.good limit log).map b.target) :
    p ∈ log.map Prod.fst ∧ b.Compiles limit t p := by
  obtain ⟨q, hq, htarget⟩ := List.mem_map.mp h
  obtain ⟨hmem, hcompiles⟩ := hfaithful.mem_good_iff.mp hq
  have hlocation := hsep.targets q (hsub hmem) hcompiles (by rw [htarget])
  obtain rfl := eq_of_target_eq hp (hsub hmem) htarget hlocation
  exact ⟨hmem, hcompiles⟩

theorem result_of_ended {s : Progress} (hp : p ∈ b.templates t)
    (h : b.all (b.start limit t) (b.templates t) = (s, none)) :
    b.result limit t p =
      match s.summary.failed.lookup p with
      | some report => some (.failed report)
      | none => result.written? b p s.summary s.tree := by
  obtain ⟨hsource, steps, hsteps, -⟩ := mem_templates.mp hp
  have hrun : b.run t limit = (.ok s.summary, s.tree) := by
    rw [templates_eq hsource hsteps] at h
    rw [run, if_pos hsource, hsteps]
    simp only [h]
  rw [result, hrun]

theorem result_of_fault {s : Progress} {fault : FileFault} (hp : p ∈ b.templates t)
    (h : b.all (b.start limit t) (b.templates t) = (s, some fault)) :
    b.result limit t p = result.written? b p s.summary s.tree := by
  obtain ⟨hsource, steps, hsteps, -⟩ := mem_templates.mp hp
  have hrun : b.run t limit = (.error (.file fault), s.tree) := by
    rw [templates_eq hsource hsteps] at h
    rw [run, if_pos hsource, hsteps]
    simp only [h]
  rw [result, hrun, h]

section Order

variable {done rest : List Path}

/-- The templates up to one of those done are done. -/
theorem filter_le_subset (hsplit : b.templates t = done ++ q :: rest) (hp : p ∈ done) :
    (b.templates t).filter (·.le p) ⊆ done := by
  have hpairwise := pairwise_templates b t
  rw [hsplit] at hpairwise ⊢
  intro r hr
  obtain ⟨hmem, hle⟩ := List.mem_filter.mp hr
  rcases List.mem_append.mp hmem with hdone | hlater
  · exact hdone
  · obtain ⟨hne, hle'⟩ := (List.pairwise_append.mp hpairwise).2.2 p hp r hlater
    exact (hne (le_antisymm hle' hle)).elim

/-- A template that is not done is not before the one at which the build stops. -/
theorem subset_filter_le (hsplit : b.templates t = done ++ q :: rest) (hp : p ∈ q :: rest) :
    done ++ [q] ⊆ (b.templates t).filter (·.le p) := by
  have hpairwise := pairwise_templates b t
  rw [hsplit] at hpairwise ⊢
  obtain ⟨-, hrest, hdone⟩ := List.pairwise_append.mp hpairwise
  intro r hr
  rcases List.mem_append.mp hr with hr | hr
  · exact List.mem_filter.mpr ⟨List.mem_append_left _ hr, (hdone r hr p hp).2⟩
  · obtain rfl := List.mem_singleton.mp hr
    refine List.mem_filter.mpr ⟨List.mem_append_right done (List.mem_cons_self ..), ?_⟩
    rcases List.mem_cons.mp hp with rfl | hp
    · exact le_refl p
    · exact ((List.pairwise_cons.mp hrest).1 p hp).2

end Order

/-- Once a template is done, its component stays, wherever the build stops. -/
theorem Course.written?_eq {log : Log} {s s' : Progress} {content : List UInt8}
    (h : b.Course limit t log s) (hfaithful : Faithful t log)
    (hsub : log.map Prod.fst ⊆ b.templates t) (hsep : b.Separate limit t p)
    (hp : p ∈ log.map Prod.fst) (hexpected : b.expected? limit t p = some (.written content))
    (hsummary : s'.summary = s.summary) (hspreads : s.tree.Spreads s'.tree) :
    result.written? b p s'.summary s'.tree = some (.written content) := by
  have hmem : b.target p ∈ s'.summary.compiled := by
    rw [hsummary, h.compiled]
    exact List.mem_map_of_mem (hfaithful.mem_good_iff.mpr ⟨hp, content, hexpected⟩)
  have hcontent :=
    hspreads.content?_eq_some (h.content?_target hfaithful hsub hsep hp hexpected)
  rw [result.written?, if_pos hmem, hcontent]
  rfl

theorem result_eq_some {outcome : Outcome} (hp : p ∈ b.templates t)
    (hsep : b.Separate limit t p) (hexpected : b.expected? limit t p = some outcome)
    (h : b.Attains limit t p outcome) : b.result limit t p = some outcome := by
  have hstopped := stopped_all b limit t
  generalize hall : b.all (b.start limit t) (b.templates t) = final at hstopped
  cases hstopped with
  | @ended s log course all =>
    have hfaithful := hsep.faithful course (all.trans (List.append_nil _).symm)
    rw [result_of_ended hp hall, course.failed]
    cases outcome with
    | failed report => rw [hfaithful.lookup_reports_eq_some_iff.mpr ⟨all ▸ hp, hexpected⟩]
    | written content =>
      have hlookup : (b.reports limit log).lookup p = none := by
        rw [Option.eq_none_iff_forall_ne_some]
        intro report hreport
        have hfailed := (hfaithful.lookup_reports_eq_some_iff.mp hreport).2
        rw [hexpected] at hfailed
        cases hfailed
      rw [hlookup]
      exact course.written?_eq hfaithful (all ▸ List.Subset.refl _) hsep (all ▸ hp) hexpected rfl
        (.refl s.tree)
  | @halted s s' fault log q rest course split halts summary _ spreads =>
    -- A report needs the end of the build and is lost; a component needs only what is done.
    have hobstructs := hsep.obstructs course split halts
    rw [result_of_fault hp hall]
    have hsub : log.map Prod.fst ++ [q] ⊆ b.templates t := by
      rw [split, ← List.singleton_append (l := rest), ← List.append_assoc]
      exact List.subset_append_left _ _
    cases outcome with
    | failed report => exact (hobstructs (h.mono hsub)).elim
    | written content =>
      have hdone : p ∈ log.map Prod.fst := by
        rw [split] at hp
        refine (List.mem_append.mp hp).resolve_right fun hlater => ?_
        exact hobstructs (h.mono (subset_filter_le split hlater))
      exact course.written?_eq (hsep.faithful course split) (List.append_subset.mp hsub).1 hsep
        hdone hexpected summary spreads

theorem result_eq_none {outcome : Outcome} (hp : p ∈ b.templates t)
    (hsep : b.Separate limit t p) (hexpected : b.expected? limit t p = some outcome)
    (h : ¬ b.Attains limit t p outcome) : b.result limit t p = none := by
  have hstopped := stopped_all b limit t
  generalize hall : b.all (b.start limit t) (b.templates t) = final at hstopped
  cases hstopped with
  | @ended s log course all =>
    have hfaithful := hsep.faithful course (all.trans (List.append_nil _).symm)
    have hunobstructed := course.history.unobstructed hfaithful
    rw [← all] at hunobstructed
    refine (h ?_).elim
    cases outcome with
    | failed report => exact hunobstructed
    | written content => exact hunobstructed.mono (List.filter_subset_self _)
  | @halted s s' fault log q rest course split halts summary _ spreads =>
    have hfaithful := hsep.faithful course split
    rw [result_of_fault hp hall, result.written?, if_neg]
    intro hmem
    rw [summary, course.compiled] at hmem
    have hsub : log.map Prod.fst ⊆ b.templates t := by
      rw [split]
      exact List.subset_append_left _ _
    obtain ⟨hdone, content, hcontent⟩ := mem_good_of_target_mem hfaithful hsub hp hsep hmem
    rw [hexpected] at hcontent
    cases hcontent
    exact h ((course.history.unobstructed hfaithful).mono (filter_le_subset split hdone))

/-! ## The template alone -/

theorem get?_alone_eq_some_iff {l : Path} {e : FileTree.Entry} :
    (b.alone t p).get? l = some e ↔ t.get? l = some e ∧
      (e = .directory ∨ l = location p ∨ (location b.source).below? l = none) := by
  unfold FileTree.get?
  by_cases hl : l.isSurrounding = true
  · rw [if_pos hl, if_pos hl]
    exact ⟨fun h => ⟨h, .inl (Option.some.inj h).symm⟩, And.left⟩
  · rw [if_neg hl, if_neg hl, alone, FileTree.lookup_filter t.nodup, Option.filter_eq_some_iff]
    simp only [Bool.or_eq_true, decide_eq_true_eq, Option.isNone_iff_eq_none, or_assoc]

theorem thins_alone (b : Build) (t : FileTree) (p : Path) : t.Thins (b.alone t p) where
  directory_iff _ := get?_alone_eq_some_iff.trans (and_iff_left (.inl rfl))
  get?_file _ _ h := (get?_alone_eq_some_iff.mp h).1

theorem content?_alone {content : List UInt8} (h : t.content? p = some content) :
    (b.alone t p).content? p = some content := by
  simp only [FileTree.content?_eq_some_iff, FileTree.find?_eq_some_iff,
    (thins_alone b t p).directory_iff] at h ⊢
  exact ⟨h.1, get?_alone_eq_some_iff.mpr ⟨h.2, .inr (.inl rfl)⟩⟩

section Thins

variable (h : t.Thins t')

include h

theorem templates_subset : b.templates t' ⊆ b.templates t := by
  intro q hq
  obtain ⟨hsource, steps, hsteps, hsearch⟩ := mem_templates.mp hq
  exact mem_templates.mpr ⟨h.isDirectory_eq ▸ hsource, steps, hsteps, h.search_subset steps hsearch⟩

theorem expected?_eq (hq : q ∈ b.templates t') :
    b.expected? limit t' q = b.expected? limit t q := by
  obtain ⟨content, hcontent⟩ := Option.isSome_iff_exists.mp (isFile_of_mem_templates hq)
  rw [expected?, expected?, read, read, hcontent, h.content?_eq_some hcontent]

theorem compiles (hq : q ∈ b.templates t') (hcompiles : b.Compiles limit t' q) :
    b.Compiles limit t q := by
  obtain ⟨content, hcontent⟩ := hcompiles
  exact ⟨content, expected?_eq h hq ▸ hcontent⟩

theorem Separate.thin (hsep : b.Separate limit t p) : b.Separate limit t' p where
  sources q hq r hr hne hle hcompiles :=
    hsep.sources q (templates_subset h hq) r (templates_subset h hr) hne hle
      (compiles h hq hcompiles)
  targets q hq hcompiles := hsep.targets q (templates_subset h hq) (compiles h hq hcompiles)

theorem Unobstructed.thin {qs : List Path} (hqs : qs ⊆ b.templates t')
    (hall : b.Unobstructed limit t qs) : b.Unobstructed limit t' qs where
  readable q hq := by
    rw [expected?_eq h (hqs hq)]
    exact hall.readable q hq
  writable q hq hcompiles := h.admits (hall.writable q hq (compiles h (hqs hq) hcompiles))
  apart q hq r hr hq' hr' :=
    hall.apart q hq r hr (compiles h (hqs hq) hq') (compiles h (hqs hr) hr')

theorem Attains.thin {outcome : Outcome} (hattains : b.Attains limit t p outcome) :
    b.Attains limit t' p outcome := by
  cases outcome with
  | failed report =>
    exact Unobstructed.thin h (List.Subset.refl _) (hattains.mono (templates_subset h))
  | written content =>
    refine Unobstructed.thin h (List.filter_subset_self _) (hattains.mono fun q hq => ?_)
    obtain ⟨hq, hle⟩ := List.mem_filter.mp hq
    exact List.mem_filter.mpr ⟨templates_subset h hq, hle⟩

end Thins

theorem mem_templates_alone (hp : p ∈ b.templates t) : p ∈ b.templates (b.alone t p) := by
  obtain ⟨hsource, steps, hsteps, hsearch⟩ := mem_templates.mp hp
  obtain ⟨content, hcontent⟩ := Option.isSome_iff_exists.mp (isFile_of_mem_templates hp)
  have hthins := thins_alone b t p
  refine mem_templates.mpr ⟨hthins.isDirectory_eq.trans hsource, steps, hsteps, ?_⟩
  exact hthins.mem_search hsearch (Option.isSome_iff_exists.mpr ⟨content, content?_alone hcontent⟩)

/-- A build that gets as far as a template needs it to makes of the template what its text says. So
the result is the same as with no other file below the source, unless the others keep the build from
getting there and nothing else does. -/
theorem result_eq_result_alone_iff (hp : p ∈ b.templates t) (htext : read t p = .ok text)
    (hsep : b.Separate limit t p) :
    (b.Attains limit t p (b.outcome limit p text) →
      b.result limit t p = some (b.outcome limit p text)) ∧
      (b.result limit t p = b.result limit (b.alone t p) p ↔
        b.Attains limit t p (b.outcome limit p text) ∨
          ¬ b.Attains limit (b.alone t p) p (b.outcome limit p text)) := by
  have hthins := thins_alone b t p
  have hp' := mem_templates_alone hp
  have hsep' := hsep.thin hthins
  have hexpected : b.expected? limit t p = some (b.outcome limit p text) := by rw [expected?, htext]
  have hexpected' := (expected?_eq hthins hp').trans hexpected
  refine ⟨result_eq_some hp hsep hexpected, ?_⟩
  by_cases hattains : b.Attains limit t p (b.outcome limit p text)
  · have hattains' := hattains.thin hthins
    rw [result_eq_some hp hsep hexpected hattains, result_eq_some hp' hsep' hexpected' hattains']
    exact iff_of_true rfl (.inl hattains)
  · rw [result_eq_none hp hsep hexpected hattains, or_iff_right hattains]
    by_cases hattains' : b.Attains limit (b.alone t p) p (b.outcome limit p text)
    · rw [result_eq_some hp' hsep' hexpected' hattains']
      exact iff_of_false (Option.some_ne_none _).symm (not_not.mpr hattains')
    · rw [result_eq_none hp' hsep' hexpected' hattains']
      exact iff_of_true rfl hattains'

/-- A file that is not UTF-8, and one that is. -/
def mixed : FileTree where
  entries := [(["t".toList], .directory), (["t".toList, "a.dot".toList], .file [0xff]),
    (["t".toList, "b.dot".toList], .file (utf8 "hi".toList))]
  nodup := by decide

def mixedBuild : Build := ⟨{}, ["t".toList], ["t".toList], "*.dot".toList⟩

theorem templates_mixed :
    mixedBuild.templates mixed = [["t".toList, "a.dot".toList], ["t".toList, "b.dot".toList]] := by
  have hsource : mixed.isDirectory mixedBuild.source = true := by decide +kernel
  have hsteps : Search.steps mixedBuild.pattern =
      .ok [.named [.anyText, .char '.', .char 'd', .char 'o', .char 't']] := by decide +kernel
  rw [templates, if_pos hsource, hsteps]
  exact List.mergeSort_of_pairwise (by decide +kernel)

theorem not_compiles_mixed : ¬ mixedBuild.Compiles 2 mixed ["t".toList, "a.dot".toList] := by
  have hnone : mixedBuild.expected? 2 mixed ["t".toList, "a.dot".toList] = none := by decide +kernel
  rintro ⟨content, hcontent⟩
  rw [hnone] at hcontent
  cases hcontent

theorem separate_mixed : mixedBuild.Separate 2 mixed ["t".toList, "b.dot".toList] := by
  constructor
  · intro q hq r hr hne hle hcompiles
    rw [templates_mixed] at hq hr
    simp only [List.mem_cons, List.not_mem_nil, or_false] at hq hr
    rcases hq with rfl | rfl
    · exact (not_compiles_mixed hcompiles).elim
    · rcases hr with rfl | rfl
      · have hle' : Path.le ["t".toList, "b.dot".toList] ["t".toList, "a.dot".toList] = false := by
          decide +kernel
        rw [hle'] at hle
        cases hle
      · exact (hne rfl).elim
  · intro q hq hcompiles _
    rw [templates_mixed] at hq
    simp only [List.mem_cons, List.not_mem_nil, or_false] at hq
    rcases hq with rfl | rfl
    · exact (not_compiles_mixed hcompiles).elim
    · rfl

/-- With nothing in its way the one that can be read is written. -/
theorem unobstructed_alone_mixed :
    mixedBuild.Unobstructed 2 (mixedBuild.alone mixed ["t".toList, "b.dot".toList])
      (mixedBuild.templates (mixedBuild.alone mixed ["t".toList, "b.dot".toList])) := by
  have honly : ∀ q ∈ mixedBuild.templates (mixedBuild.alone mixed ["t".toList, "b.dot".toList]),
      q = ["t".toList, "b.dot".toList] := by
    intro q hq
    have hmem := templates_subset (thins_alone mixedBuild mixed _) hq
    rw [templates_mixed] at hmem
    simp only [List.mem_cons, List.not_mem_nil, or_false] at hmem
    rcases hmem with rfl | rfl
    · have hgone : (mixedBuild.alone mixed ["t".toList, "b.dot".toList]).isFile
          ["t".toList, "a.dot".toList] = false := by decide +kernel
      rw [isFile_of_mem_templates hq] at hgone
      cases hgone
    · rfl
  have hadmits : (mixedBuild.alone mixed ["t".toList, "b.dot".toList]).Admits
      (mixedBuild.target ["t".toList, "b.dot".toList]) :=
    (FileTree.writeThrough_lays _ _ []).eq_none_iff.mp (by decide +kernel)
  constructor
  · intro q hq
    rw [honly q hq]
    decide +kernel
  · intro q hq _
    rw [honly q hq]
    exact hadmits
  · intro q hq r hr _ _
    rw [honly q hq, honly r hr]
    exact hadmits.returns

/-- The file that cannot be read keeps the build from the other. -/
theorem result_ne_result_alone_mixed :
    mixedBuild.result 2 mixed ["t".toList, "b.dot".toList] ≠
      mixedBuild.result 2 (mixedBuild.alone mixed ["t".toList, "b.dot".toList])
        ["t".toList, "b.dot".toList] := by
  have hp : ["t".toList, "b.dot".toList] ∈ mixedBuild.templates mixed := by
    rw [templates_mixed]
    decide +kernel
  have htext : read mixed ["t".toList, "b.dot".toList] = .ok "hi".toList := by decide +kernel
  have hwritten : mixedBuild.outcome 2 ["t".toList, "b.dot".toList] "hi".toList = .written
      (utf8 "export default function tpl(it: any) \x7b\n    return \"hi\";\n\x7d\n".toList) := by
    decide +kernel
  rw [ne_eq, (result_eq_result_alone_iff hp htext separate_mixed).2, hwritten]
  rintro (h | h)
  · have hbroken : ["t".toList, "a.dot".toList] ∈
        (mixedBuild.templates mixed).filter (·.le ["t".toList, "b.dot".toList]) := by
      rw [templates_mixed]
      decide +kernel
    have hreadable := h.readable _ hbroken
    have hnone : mixedBuild.expected? 2 mixed ["t".toList, "a.dot".toList] = none := by
      decide +kernel
    rw [hnone] at hreadable
    cases hreadable
  · exact h (unobstructed_alone_mixed.mono (List.filter_subset_self _))

end Build

end Stencil
