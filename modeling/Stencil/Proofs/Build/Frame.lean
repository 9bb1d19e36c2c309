import Stencil.Proofs.Build.Progress

/-!
# What a build leaves alone

A build writes the targets of the templates that it compiles and touches no other file, wherever it
stops (`run_touches_only_targets`). Each of the templates up to there is either compiled, and then
its target is listed, or refused, and then there is a report on it.

Nothing is assumed about the tree: a target may be there before, may be a directory, may be the
target of several templates, and may be a template that is compiled later. `Ledger` is what holds
after some of the templates in any case. It is read off the log of the build (`Course.ledger`).
-/

namespace Stencil

open Stencil.Path Text

namespace FileTree

variable {t t' t'' : FileTree} {W : Path → Prop}

/-- The second tree has the same files as the first except at the given locations, and has lost no
directory. -/
structure Keeps (W : Path → Prop) (t t' : FileTree) : Prop where
  file_iff : ∀ l content, ¬ W l →
    (t'.get? l = some (.file content) ↔ t.get? l = some (.file content))
  directory : ∀ l, t.get? l = some .directory → t'.get? l = some .directory

theorem Keeps.trans (h : Keeps W t t') (h' : Keeps W t' t'') : Keeps W t t'' where
  file_iff l content hl := (h'.file_iff l content hl).trans (h.file_iff l content hl)
  directory l hl := h'.directory l (h.directory l hl)

theorem Spreads.keeps (h : t.Spreads t') : Keeps W t t' where
  file_iff l content _ := by
    rcases h l with heq | ⟨hnone, hdirectory⟩
    · rw [heq]
    · rw [hnone, hdirectory]
      exact iff_of_false nofun nofun
  directory _ := h.get?_eq_some

theorem Overlaid.keeps {D : Path → Prop} (h : Overlaid D W t t') : Keeps W t t' where
  file_iff l content hl := by
    refine ⟨fun hfile => ?_, fun hfile => h.get?_file hfile hl⟩
    obtain ⟨found, hfound⟩ := ((h.holdsFile_iff l).mp ⟨content, hfile⟩).resolve_right hl
    rw [h.get?_file hfound hl] at hfile
    rw [hfound, hfile]
  directory l hl := (h.directory_iff l).mpr (.inl hl)

end FileTree

namespace Build

variable {b : Build} {limit : Nat} {t : FileTree} {q : Path} {log : Log} {qs : List Path}

/-! ## The account of a build -/

/-- What holds of a build of the tree after the templates `done`, of which it has compiled `good`
and refused `bad`. -/
structure Ledger (b : Build) (limit : Nat) (t : FileTree) (done good bad : List Path)
    (s : Progress) : Prop where
  config : s.session.config = b.config
  /-- Every template is compiled or refused, once. -/
  perm : (good ++ bad).Perm done
  good_sublist : good.Sublist done
  bad_sublist : bad.Sublist done
  compiled : s.summary.compiled = good.map b.target
  failed : s.summary.failed.map Prod.fst = bad
  /-- No other file has been touched. -/
  keeps : FileTree.Keeps (b.Writes good) t s.tree
  /-- Templates that have not been written over are judged by their text. -/
  compiles : ∀ q ∈ good, ¬ b.Writes good (location q) → b.Compiles limit t q
  refused : ∀ q report, (q, report) ∈ s.summary.failed → ¬ b.Writes good (location q) →
    b.expected? limit t q = some (.failed report)
  /-- A target holds the component of a template that has it. -/
  held : ∀ l, b.Writes good l → ∃ q ∈ good, ∃ text content, location (b.target q) = l ∧
    b.outcome limit q text = .written content ∧ s.tree.get? l = some (.file content)

/-- A template that is never written over has been read with the text that it had before. -/
theorem History.read_eq_of_mem {text : Text} (h : b.History limit t log) (hmem : (q, text) ∈ log)
    (hq : ¬ b.Writes (b.good limit log) (location q)) : read t q = .ok text := by
  induction h with
  | nil => cases hmem
  | snoc h hread _ ih =>
    rw [good_append, writes_append, not_or] at hq
    rcases List.mem_append.mp hmem with hmem | hmem
    · exact ih hmem hq.1
    · cases List.mem_singleton.mp hmem
      exact hread hq.1

/-- The log tells the account, and directories make no difference to it. -/
theorem Course.ledger {s s' : Progress} (h : b.Course limit t log s)
    (hsummary : s'.summary = s.summary) (hsession : b.Serves limit s'.session)
    (hspreads : s.tree.Spreads s'.tree) :
    b.Ledger limit t (log.map Prod.fst) (b.good limit log) (b.bad limit log) s' where
  config := hsession.config_eq
  perm := by
    rw [good, bad, ← List.map_append]
    exact (List.filter_append_perm _ log).map Prod.fst
  good_sublist := List.filter_sublist.map Prod.fst
  bad_sublist := List.filter_sublist.map Prod.fst
  compiled := by rw [hsummary, h.compiled]
  failed := by rw [hsummary, h.failed, map_fst_reports]
  keeps := h.overlaid.keeps.trans hspreads.keeps
  compiles q hq hnot := by
    obtain ⟨text, hmem, hwritten⟩ := mem_good.mp hq
    exact (compiles_iff_of_read (h.history.read_eq_of_mem hmem hnot)).mpr hwritten
  refused q report hq hnot := by
    rw [hsummary, h.failed] at hq
    obtain ⟨text, hmem, hfailed⟩ := mem_reports.mp hq
    rw [expected?_of_read (h.history.read_eq_of_mem hmem hnot), hfailed]
  held l hl := by
    obtain ⟨q, text, content, hmem, hlocation, houtcome, hget⟩ := h.held l hl
    have hgood : q ∈ b.good limit log := mem_good.mpr ⟨text, hmem, by rw [houtcome]; rfl⟩
    exact ⟨q, hgood, text, content, hlocation, houtcome, hspreads.get?_eq_some hget⟩

/-- The account of all templates up to the one at which the build stops. -/
theorem Stopped.ledger {attempt : Progress × Option FileFault} (h : b.Stopped limit t qs attempt) :
    ∃ done rest good bad, qs = done ++ rest ∧ b.Ledger limit t done good bad attempt.1 ∧
      (attempt.2 = none → rest = []) := by
  cases h with
  | @ended s log course all =>
    refine ⟨log.map Prod.fst, [], _, _, ?_, course.ledger rfl course.session (.refl s.tree), ?_⟩
    · rw [List.append_nil]
      exact all
    · exact fun _ => rfl
  | @halted s s' fault log q rest course split halts summary session spreads =>
    refine ⟨log.map Prod.fst, q :: rest, _, _, split, course.ledger summary session spreads, ?_⟩
    exact fun hnone => absurd hnone (Option.some_ne_none fault)

/-! ## The whole build -/

/-- How far a build has got when it stops. -/
def progress (b : Build) (limit : Nat) (t : FileTree) : Progress :=
  (b.all (b.start limit t) (b.templates t)).1

/-- A build ends before its first template, after its last one, or at the one that stops it. -/
theorem run_cases (b : Build) (limit : Nat) (t : FileTree) :
    (∃ error, b.run t limit = (.error error, t) ∧ b.templates t = []) ∨
    (∃ s, b.run t limit = (.ok s.summary, s.tree) ∧
      b.all (b.start limit t) (b.templates t) = (s, none)) ∨
    ∃ s fault, b.run t limit = (.error (.file fault), s.tree) ∧
      b.all (b.start limit t) (b.templates t) = (s, some fault) := by
  by_cases hsource : t.isDirectory b.source = true
  · cases hsteps : Search.steps b.pattern with
    | error fault =>
      refine .inl ⟨.pattern fault, ?_, ?_⟩
      · rw [run, if_pos hsource, hsteps]
      · rw [templates, if_pos hsource, hsteps]
    | ok steps =>
      rw [templates_eq hsource hsteps]
      cases hall : b.all (b.start limit t) (t.search b.source steps) with
      | mk s fault =>
      cases fault with
      | none =>
        refine .inr (.inl ⟨s, ?_, rfl⟩)
        simp only [run, if_pos hsource, hsteps, hall]
      | some fault =>
        refine .inr (.inr ⟨s, fault, ?_, rfl⟩)
        simp only [run, if_pos hsource, hsteps, hall]
  · refine .inl ?_
    rw [run, if_neg hsource, templates, if_neg hsource]
    split
    · exact ⟨_, rfl, rfl⟩
    · exact ⟨_, rfl, rfl⟩

theorem tree_run (b : Build) (limit : Nat) (t : FileTree) :
    (b.run t limit).2 = (b.progress limit t).tree := by
  rcases run_cases b limit t with ⟨error, hrun, hnone⟩ | ⟨s, hrun, hall⟩ | ⟨s, fault, hrun, hall⟩
  · rw [hrun, progress, hnone]
    rfl
  · rw [hrun, progress, hall]
  · rw [hrun, progress, hall]

theorem summary_run {summary : Summary} (h : (b.run t limit).1 = .ok summary) :
    summary = (b.progress limit t).summary ∧
      (b.all (b.start limit t) (b.templates t)).2 = none := by
  rcases run_cases b limit t with ⟨error, hrun, -⟩ | ⟨s, hrun, hall⟩ | ⟨s, fault, hrun, -⟩
  · rw [hrun] at h
    cases h
  · rw [hrun] at h
    rw [progress, hall]
    exact ⟨(Except.ok.inj h).symm, rfl⟩
  · rw [hrun] at h
    cases h

/-- Templates are the files that the pattern finds below the source. -/
theorem mem_templates_iff :
    q ∈ b.templates t ↔ t.isDirectory b.source = true ∧ ∃ steps,
      Search.steps b.pattern = .ok steps ∧ q ∈ Search.reach t (.anywhere :: steps) b.source ∧
        t.isFile q = true := by
  rw [mem_templates]
  simp only [FileTree.mem_search]

/-- A build keeps an account of its templates, which are listed once and in order, and when it comes
to its end they are all in the summary. Wherever it stops, every file is as it was before unless it
is the target of a template that has been compiled. So the target of any other template is as it
was, unless it is also the target of one more. -/
theorem run_touches_only_targets (b : Build) (limit : Nat) (t : FileTree) :
    ∃ done rest good bad : List Path,
      (∀ q, q ∈ done ++ rest ↔ t.isDirectory b.source = true ∧ ∃ steps,
        Search.steps b.pattern = .ok steps ∧ q ∈ Search.reach t (.anywhere :: steps) b.source ∧
          t.isFile q = true) ∧
      (done ++ rest).Pairwise (fun q r => q ≠ r ∧ q.le r = true) ∧
      b.Ledger limit t done good bad (b.progress limit t) ∧
      (∀ summary, (b.run t limit).1 = .ok summary →
        rest = [] ∧ summary = (b.progress limit t).summary) ∧
      (b.run t limit).2 = (b.progress limit t).tree ∧
      ∀ q ∈ done ++ rest, q ∉ good →
        (∀ r ∈ done ++ rest, r ≠ q → location (b.target r) ≠ location (b.target q)) →
        ∀ content, (b.run t limit).2.get? (location (b.target q)) = some (.file content) ↔
          t.get? (location (b.target q)) = some (.file content) := by
  obtain ⟨done, rest, good, bad, hsplit, hledger, hend⟩ := (stopped_all b limit t).ledger
  refine ⟨done, rest, good, bad, fun q => ?_, ?_, hledger, fun summary h => ?_, ?_, ?_⟩
  · rw [← hsplit]
    exact mem_templates_iff
  · rw [← hsplit]
    exact pairwise_templates b t
  · obtain ⟨hsummary, hnone⟩ := summary_run h
    exact ⟨hend hnone, hsummary⟩
  · exact tree_run b limit t
  · intro q hq hnot hapart content
    rw [tree_run]
    refine hledger.keeps.file_iff _ content ?_
    rintro ⟨r, hr, hlocation⟩
    have hr' : r ∈ done ++ rest := List.mem_append_left rest (hledger.good_sublist.subset hr)
    exact hapart r hr' (fun heq => hnot (heq ▸ hr)) hlocation

end Build

end Stencil
