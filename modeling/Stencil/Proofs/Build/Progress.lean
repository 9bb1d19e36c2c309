import Stencil.Build
import Stencil.Proofs.FileTree.Search
import Stencil.Proofs.Session

/-!
# The course of a build

What becomes of a template is decided by its text (`outcome`). A build goes on as long as none of
the templates obstructs it: with a file that is not UTF-8, or with a target that cannot be written.
`Unobstructed` says so of the tree before the build.

`Course` describes a build by the log of the templates it has taken, each with the text it was read
with. Nothing is assumed about the tree: a target may be a template that is compiled later, and then
the text in the log is not the one from before the build. One template more keeps the course or
stops the build (`Course.one`), and so a build stops with it (`Course.all`). What a build leaves
alone and what it makes of a template are both read off the log.
-/

namespace Stencil

open Stencil.Path Text

namespace Build

variable {b : Build} {limit : Nat} {t : FileTree} {p q : Path} {text : Text}

/-! ## Outcomes -/

inductive Outcome where
  | failed (report : Text)
  | written (content : List UInt8)
deriving DecidableEq

def Outcome.isWritten : Outcome → Bool
  | .failed _ => false
  | .written _ => true

/-- What becomes of a template with the given text. -/
def outcome (b : Build) (limit : Nat) (template : Path) (text : Text) : Outcome :=
  match Stencil.compile b.config text limit with
  | .error error => .failed (error.report template.text).format
  | .ok component => .written (utf8 (fileText component))

/-- What becomes of a template with the text that it has in the tree. -/
def expected? (b : Build) (limit : Nat) (t : FileTree) (template : Path) : Option Outcome :=
  match read t template with
  | .error _ => none
  | .ok text => some (b.outcome limit template text)

/-- The templates of a build, in the order in which they are compiled. -/
def templates (b : Build) (t : FileTree) : List Path :=
  if t.isDirectory b.source then
    match Search.steps b.pattern with
    | .error _ => []
    | .ok steps => t.search b.source steps
  else []

/-- The template can be read and compiled. -/
def Compiles (b : Build) (limit : Nat) (t : FileTree) (template : Path) : Prop :=
  ∃ content, b.expected? limit t template = some (.written content)

/-- None of the templates stops the build: each can be read, the targets of those that compile can
be written, and none of these targets is a directory on the way to another. -/
structure Unobstructed (b : Build) (limit : Nat) (t : FileTree) (templates : List Path) :
    Prop where
  readable : ∀ q ∈ templates, (b.expected? limit t q).isSome = true
  writable : ∀ q ∈ templates, b.Compiles limit t q → t.Admits (b.target q)
  apart : ∀ q ∈ templates, ∀ r ∈ templates, b.Compiles limit t q → b.Compiles limit t r →
    ¬ (b.target q).Passes (location (b.target r))

theorem Unobstructed.mono {qs rs : List Path} (h : b.Unobstructed limit t rs) (hsub : qs ⊆ rs) :
    b.Unobstructed limit t qs where
  readable q hq := h.readable q (hsub hq)
  writable q hq := h.writable q (hsub hq)
  apart q hq r hr := h.apart q (hsub hq) r (hsub hr)

/-- One template more: it has to be readable, its target writable, and apart from the others. -/
theorem unobstructed_snoc {qs : List Path} :
    b.Unobstructed limit t (qs ++ [q]) ↔
      b.Unobstructed limit t qs ∧ (b.expected? limit t q).isSome = true ∧
        (b.Compiles limit t q → t.Admits (b.target q) ∧ ∀ r ∈ qs, b.Compiles limit t r →
          ¬ (b.target q).Passes (location (b.target r)) ∧
            ¬ (b.target r).Passes (location (b.target q))) := by
  constructor
  · intro h
    have hq : q ∈ qs ++ [q] := List.mem_append_right qs (List.mem_singleton.mpr rfl)
    refine ⟨h.mono (List.subset_append_left qs [q]), h.readable q hq, fun hcompiles => ?_⟩
    refine ⟨h.writable q hq hcompiles, fun r hr hr' => ?_⟩
    have hr : r ∈ qs ++ [q] := List.mem_append_left [q] hr
    exact ⟨h.apart q hq r hr hcompiles hr', h.apart r hr q hq hr' hcompiles⟩
  · rintro ⟨h, hreadable, hq⟩
    constructor
    · intro r hr
      rcases List.mem_append.mp hr with hr | hr
      · exact h.readable r hr
      · exact List.mem_singleton.mp hr ▸ hreadable
    · intro r hr hcompiles
      rcases List.mem_append.mp hr with hr | hr
      · exact h.writable r hr hcompiles
      · obtain rfl := List.mem_singleton.mp hr
        exact (hq hcompiles).1
    · intro r hr s hs hr' hs'
      rcases List.mem_append.mp hr with hrs | hrq
      · rcases List.mem_append.mp hs with hss | hsq
        · exact h.apart r hrs s hss hr' hs'
        · obtain rfl := List.mem_singleton.mp hsq
          exact ((hq hs').2 r hrs hr').2
      · obtain rfl := List.mem_singleton.mp hrq
        rcases List.mem_append.mp hs with hss | hsq
        · exact ((hq hr').2 s hss hs').1
        · obtain rfl := List.mem_singleton.mp hsq
          exact (hq hr').1.returns

theorem expected?_of_read (hread : read t q = .ok text) :
    b.expected? limit t q = some (b.outcome limit q text) := by
  rw [expected?, hread]

theorem compiles_iff_of_read (hread : read t q = .ok text) :
    b.Compiles limit t q ↔ (b.outcome limit q text).isWritten = true := by
  rw [Compiles, expected?_of_read hread]
  cases b.outcome limit q text with
  | failed report => exact iff_of_false nofun Bool.false_ne_true
  | written content => exact iff_of_true ⟨content, rfl⟩ rfl

/-! ## One template -/

/-- The session compiles with the settings of the build. -/
structure Serves (b : Build) (limit : Nat) (session : Session) : Prop where
  config_eq : session.config = b.config
  limit_eq : session.limit = limit

theorem Serves.compile {session : Session} (h : b.Serves limit session) (text : Text) :
    b.Serves limit (session.compile text).2 where
  config_eq := (session.config_compile text).trans h.config_eq
  limit_eq := (session.limit_compile text).trans h.limit_eq

/-- The build cannot get past the template: it cannot be read, or its component cannot be written.
-/
def Halts (b : Build) (limit : Nat) (s : Progress) (q : Path) : Prop :=
  ∀ text, read s.tree q = .ok text →
    (b.outcome limit q text).isWritten = true ∧ ¬ s.tree.Admits (b.target q)

/-- All that can become of a template: it is refused, its component is written, or the build stops
at it and has made nothing but directories. -/
inductive Taken (b : Build) (limit : Nat) (s : Progress) (q : Path) :
    Progress × Option FileFault → Prop
  | refused {text report : Text} {session : Session} (hread : read s.tree q = .ok text)
      (houtcome : b.outcome limit q text = .failed report) (hsession : b.Serves limit session) :
      Taken b limit s q
        (⟨{ s.summary with failed := s.summary.failed ++ [(q, report)] }, session, s.tree⟩, none)
  | written {text : Text} {content : List UInt8} {session : Session} {tree : FileTree}
      (hread : read s.tree q = .ok text) (houtcome : b.outcome limit q text = .written content)
      (hsession : b.Serves limit session)
      (hlays : FileTree.Lays (b.target q) content s.tree (tree, none)) :
      Taken b limit s q
        (⟨{ s.summary with compiled := s.summary.compiled ++ [b.target q] }, session, tree⟩, none)
  | halted {session : Session} {tree : FileTree} {fault : FileFault} (halts : b.Halts limit s q)
      (hsession : b.Serves limit session) (hspreads : s.tree.Spreads tree) :
      Taken b limit s q (⟨s.summary, session, tree⟩, some fault)

theorem taken_one {s : Progress} (h : b.Serves limit s.session) (q : Path) :
    b.Taken limit s q (b.one s q) := by
  unfold one
  cases hread : read s.tree q with
  | error fault =>
    refine .halted (fun text htext => ?_) h (.refl s.tree)
    rw [hread] at htext
    cases htext
  | ok text =>
    have hfst := s.session.compile_fst text
    rw [h.config_eq, h.limit_eq] at hfst
    have hsession := h.compile text
    dsimp only
    generalize s.session.compile text = compiled at hfst hsession
    obtain ⟨result, session⟩ := compiled
    dsimp only at hfst
    cases result with
    | error error =>
      exact .refused hread (by rw [outcome, ← hfst]) hsession
    | ok component =>
      have houtcome : b.outcome limit q text = .written (utf8 (fileText component)) := by
        rw [outcome, ← hfst]
      have hlays := s.tree.writeThrough_lays (b.target q) (utf8 (fileText component))
      dsimp only
      generalize s.tree.writeThrough (b.target q) (utf8 (fileText component)) = attempt at hlays
      obtain ⟨tree, fault⟩ := attempt
      cases fault with
      | none => exact .written hread houtcome hsession hlays
      | some fault =>
        refine .halted (fun text' htext' => ?_) hsession (hlays.spreads (Option.some_ne_none fault))
        rw [hread] at htext'
        cases htext'
        rw [houtcome]
        exact ⟨rfl, fun hadmits => Option.some_ne_none fault (hlays.eq_none_iff.mpr hadmits)⟩

/-! ## The log of a build -/

/-- Templates in the order in which they have been taken, with the texts they were read with. -/
abbrev Log := List (Path × Text)

section Log

variable {log : Log}

/-- The templates of a log that have been compiled. -/
def good (b : Build) (limit : Nat) (log : Log) : List Path :=
  (log.filter fun e => (b.outcome limit e.1 e.2).isWritten).map Prod.fst

/-- The templates of a log that have been refused. -/
def bad (b : Build) (limit : Nat) (log : Log) : List Path :=
  (log.filter fun e => !(b.outcome limit e.1 e.2).isWritten).map Prod.fst

/-- The refused templates with the reports on them. -/
def reports (b : Build) (limit : Nat) (log : Log) : List (Path × Text) :=
  log.filterMap fun e =>
    match b.outcome limit e.1 e.2 with
    | .failed report => some (e.1, report)
    | .written _ => none

/-- The locations to which the targets of the templates lead. -/
def Writes (b : Build) (good : List Path) (l : Path) : Prop :=
  ∃ q ∈ good, location (b.target q) = l

/-- The directories on the way to the targets of the templates. -/
def Crosses (b : Build) (good : List Path) (l : Path) : Prop :=
  ∃ q ∈ good, (b.target q).Passes l

theorem mem_good : q ∈ b.good limit log ↔
    ∃ text, (q, text) ∈ log ∧ (b.outcome limit q text).isWritten = true := by
  simp only [good, List.mem_map, List.mem_filter, Prod.exists, exists_and_right, exists_eq_right]

theorem mem_reports {report : Text} : (q, report) ∈ b.reports limit log ↔
    ∃ text, (q, text) ∈ log ∧ b.outcome limit q text = .failed report := by
  rw [reports, List.mem_filterMap]
  constructor
  · rintro ⟨⟨r, text⟩, hmem, hfailed⟩
    split at hfailed
    next found hfound =>
      cases hfailed
      exact ⟨text, hmem, hfound⟩
    · cases hfailed
  · rintro ⟨text, hmem, hfailed⟩
    exact ⟨(q, text), hmem, by rw [hfailed]⟩

theorem map_fst_reports (b : Build) (limit : Nat) (log : Log) :
    (b.reports limit log).map Prod.fst = b.bad limit log := by
  induction log with
  | nil => rfl
  | cons e log ih =>
    rw [reports, bad, List.filterMap_cons, List.filter_cons]
    cases b.outcome limit e.1 e.2 with
    | failed report => exact congrArg (e.1 :: ·) ih
    | written content => exact ih

theorem good_append (log log' : Log) :
    b.good limit (log ++ log') = b.good limit log ++ b.good limit log' := by
  rw [good, List.filter_append, List.map_append, good, good]

theorem reports_append (log log' : Log) :
    b.reports limit (log ++ log') = b.reports limit log ++ b.reports limit log' :=
  List.filterMap_append

section Entry

variable {report : Text} {content : List UInt8}

theorem good_of_failed (h : b.outcome limit q text = .failed report) :
    b.good limit [(q, text)] = [] := by
  rw [good, List.filter_cons_of_neg, List.filter_nil, List.map_nil]
  rw [h]
  exact Bool.false_ne_true

theorem good_of_written (h : b.outcome limit q text = .written content) :
    b.good limit [(q, text)] = [q] := by
  rw [good, List.filter_cons_of_pos, List.filter_nil]
  · rfl
  · rw [h]
    rfl

theorem reports_of_failed (h : b.outcome limit q text = .failed report) :
    b.reports limit [(q, text)] = [(q, report)] := by
  simp only [reports, List.filterMap_cons, h, List.filterMap_nil]

theorem reports_of_written (h : b.outcome limit q text = .written content) :
    b.reports limit [(q, text)] = [] := by
  simp only [reports, List.filterMap_cons, h, List.filterMap_nil]

end Entry

theorem writes_append {qs rs : List Path} {l : Path} :
    b.Writes (qs ++ rs) l ↔ b.Writes qs l ∨ b.Writes rs l := by
  simp only [Writes, List.mem_append, or_and_right, exists_or]

theorem crosses_append {qs rs : List Path} {l : Path} :
    b.Crosses (qs ++ rs) l ↔ b.Crosses qs l ∨ b.Crosses rs l := by
  simp only [Crosses, List.mem_append, or_and_right, exists_or]

theorem writes_singleton {l : Path} : b.Writes [q] l ↔ location (b.target q) = l := by
  simp only [Writes, List.mem_singleton, exists_eq_left]

theorem crosses_singleton {l : Path} : b.Crosses [q] l ↔ (b.target q).Passes l := by
  simp only [Crosses, List.mem_singleton, exists_eq_left]

/-- A log of a build of the tree, one template after another: a template that has not been written
over has the text that it had before, and the target of one that compiles is neither on the way to
an earlier target nor has an earlier one on its way. -/
inductive History (b : Build) (limit : Nat) (t : FileTree) : Log → Prop
  | nil : History b limit t []
  | snoc {log : Log} {q : Path} {text : Text} (h : History b limit t log)
      (hread : ¬ b.Writes (b.good limit log) (location q) → read t q = .ok text)
      (hadmits : (b.outcome limit q text).isWritten = true → t.Admits (b.target q) ∧
        (∀ l, (b.target q).Passes l → ¬ b.Writes (b.good limit log) l) ∧
          ¬ b.Crosses (b.good limit log) (location (b.target q))) :
      History b limit t (log ++ [(q, text)])

/-- A build of the tree that has taken the templates of the log. -/
structure Course (b : Build) (limit : Nat) (t : FileTree) (log : Log) (s : Progress) : Prop where
  session : b.Serves limit s.session
  compiled : s.summary.compiled = (b.good limit log).map b.target
  failed : s.summary.failed = b.reports limit log
  history : b.History limit t log
  overlaid :
    FileTree.Overlaid (b.Crosses (b.good limit log)) (b.Writes (b.good limit log)) t s.tree
  /-- A target holds what one of the templates that have it compiles to. -/
  held : ∀ l, b.Writes (b.good limit log) l → ∃ q text content, (q, text) ∈ log ∧
    location (b.target q) = l ∧ b.outcome limit q text = .written content ∧
      s.tree.get? l = some (.file content)

theorem course_start (b : Build) (limit : Nat) (t : FileTree) :
    b.Course limit t [] (b.start limit t) where
  session := ⟨rfl, rfl⟩
  compiled := rfl
  failed := rfl
  history := .nil
  overlaid := (FileTree.Overlaid.refl t).congr
    (fun _ => iff_of_false id nofun) (fun _ => iff_of_false id nofun)
  held := nofun

namespace Course

variable {s : Progress}

/-- A template that has not been written over is read as it was before the build. -/
theorem read_eq (h : b.Course limit t log s) (hfile : t.isFile q = true)
    (hq : ¬ b.Writes (b.good limit log) (location q)) : read s.tree q = read t q := by
  obtain ⟨content, hcontent⟩ := Option.isSome_iff_exists.mp hfile
  rw [read, read, hcontent, h.overlaid.content?_eq_some hcontent hq]

theorem snoc_of_refused {report : Text} {session : Session} (h : b.Course limit t log s)
    (hfile : t.isFile q = true) (hread : read s.tree q = .ok text)
    (houtcome : b.outcome limit q text = .failed report) (hsession : b.Serves limit session) :
    b.Course limit t (log ++ [(q, text)])
      ⟨{ s.summary with failed := s.summary.failed ++ [(q, report)] }, session, s.tree⟩ := by
  have hgood : b.good limit (log ++ [(q, text)]) = b.good limit log := by
    rw [good_append, good_of_failed houtcome, List.append_nil]
  constructor
  · exact hsession
  · rw [hgood]
    exact h.compiled
  · rw [reports_append, reports_of_failed houtcome, h.failed]
  · refine h.history.snoc (fun hq => h.read_eq hfile hq ▸ hread) fun hwritten => ?_
    rw [houtcome] at hwritten
    cases hwritten
  · rw [hgood]
    exact h.overlaid
  · rw [hgood]
    intro l hl
    obtain ⟨r, text', content, hmem, hheld⟩ := h.held l hl
    exact ⟨r, text', content, List.mem_append_left _ hmem, hheld⟩

theorem snoc_of_written {content : List UInt8} {session : Session} {tree : FileTree}
    (h : b.Course limit t log s) (hfile : t.isFile q = true) (hread : read s.tree q = .ok text)
    (houtcome : b.outcome limit q text = .written content) (hsession : b.Serves limit session)
    (hlays : FileTree.Lays (b.target q) content s.tree (tree, none)) :
    b.Course limit t (log ++ [(q, text)])
      ⟨{ s.summary with compiled := s.summary.compiled ++ [b.target q] }, session, tree⟩ := by
  have hoverlaid := hlays.overlaid rfl
  have hgood : b.good limit (log ++ [(q, text)]) = b.good limit log ++ [q] := by
    rw [good_append, good_of_written houtcome]
  constructor
  · exact hsession
  · rw [hgood, List.map_append, h.compiled]
    rfl
  · rw [reports_append, reports_of_written houtcome, List.append_nil]
    exact h.failed
  · refine h.history.snoc (fun hq => h.read_eq hfile hq ▸ hread) fun _ => ?_
    exact h.overlaid.admits_iff.mp (hlays.eq_none_iff.mp rfl)
  · rw [hgood]
    refine (h.overlaid.trans hoverlaid).congr (fun l => ?_) fun l => ?_
    · rw [crosses_append, crosses_singleton]
    · rw [writes_append, writes_singleton]
  · rw [hgood]
    intro l hl
    -- The target written now holds the new component, whatever it held; any other is as it was.
    by_cases hlq : location (b.target q) = l
    · subst hlq
      exact ⟨q, text, content, List.mem_append_right log (List.mem_singleton.mpr rfl), rfl,
        houtcome, hlays.get?_location rfl⟩
    · rw [writes_append, writes_singleton, or_iff_left hlq] at hl
      obtain ⟨r, text', content', hmem, hrl, houtcome', hget⟩ := h.held l hl
      exact ⟨r, text', content', List.mem_append_left _ hmem, hrl, houtcome',
        hoverlaid.get?_file hget hlq⟩

/-- One template more is taken, or the build stops at it and has made nothing but directories. -/
theorem one (h : b.Course limit t log s) (hfile : t.isFile q = true) :
    (∃ s' text, b.one s q = (s', none) ∧ b.Course limit t (log ++ [(q, text)]) s') ∨
      ∃ s' fault, b.one s q = (s', some fault) ∧ b.Halts limit s q ∧ s'.summary = s.summary ∧
        b.Serves limit s'.session ∧ s.tree.Spreads s'.tree := by
  have htaken := taken_one h.session q
  generalize b.one s q = attempt at htaken
  cases htaken with
  | refused hread houtcome hsession =>
    exact .inl ⟨_, _, rfl, h.snoc_of_refused hfile hread houtcome hsession⟩
  | written hread houtcome hsession hlays =>
    exact .inl ⟨_, _, rfl, h.snoc_of_written hfile hread houtcome hsession hlays⟩
  | halted halts hsession hspreads => exact .inr ⟨_, _, rfl, halts, rfl, hsession, hspreads⟩

end Course

end Log

/-! ## All templates -/

/-- A build of the templates has stopped: after all of them, or at one that it cannot get past. -/
inductive Stopped (b : Build) (limit : Nat) (t : FileTree) (qs : List Path) :
    Progress × Option FileFault → Prop
  | ended {s : Progress} {log : Log} (course : b.Course limit t log s)
      (all : qs = log.map Prod.fst) : Stopped b limit t qs (s, none)
  | halted {s s' : Progress} {fault : FileFault} {log : Log} {q : Path} {rest : List Path}
      (course : b.Course limit t log s) (split : qs = log.map Prod.fst ++ q :: rest)
      (halts : b.Halts limit s q) (summary : s'.summary = s.summary)
      (session : b.Serves limit s'.session) (spreads : s.tree.Spreads s'.tree) :
      Stopped b limit t qs (s', some fault)

theorem Course.all {log : Log} {s : Progress} {rest : List Path} (h : b.Course limit t log s)
    (hfiles : ∀ q ∈ rest, t.isFile q = true) :
    b.Stopped limit t (log.map Prod.fst ++ rest) (b.all s rest) := by
  induction rest generalizing log s with
  | nil =>
    rw [List.append_nil]
    exact .ended h rfl
  | cons q rest ih =>
    obtain ⟨hfile, hfiles⟩ := List.forall_mem_cons.mp hfiles
    unfold Build.all
    rcases h.one hfile with
      ⟨s', text, hone, hcourse⟩ | ⟨s', fault, hone, hhalts, hsummary, hsession, hspreads⟩
    · rw [hone]
      have hsplit : log.map Prod.fst ++ q :: rest = (log ++ [(q, text)]).map Prod.fst ++ rest := by
        simp
      rw [hsplit]
      exact ih hcourse hfiles
    · rw [hone]
      exact .halted h rfl hhalts hsummary hsession hspreads

/-! ## The templates of a build -/

theorem mem_templates :
    q ∈ b.templates t ↔ t.isDirectory b.source = true ∧
      ∃ steps, Search.steps b.pattern = .ok steps ∧ q ∈ t.search b.source steps := by
  unfold templates
  split
  next hsource =>
    rw [and_iff_right hsource]
    cases Search.steps b.pattern with
    | error fault => simp
    | ok steps => simp
  next hsource => simp [hsource]

theorem templates_eq {steps : List Search.Step} (hsource : t.isDirectory b.source = true)
    (hsteps : Search.steps b.pattern = .ok steps) : b.templates t = t.search b.source steps := by
  rw [templates, if_pos hsource, hsteps]

theorem isFile_of_mem_templates (h : q ∈ b.templates t) : t.isFile q = true := by
  obtain ⟨-, steps, -, hq⟩ := mem_templates.mp h
  exact (FileTree.mem_search.mp hq).2

/-- The templates are listed once each, in the order of their paths. -/
theorem pairwise_templates (b : Build) (t : FileTree) :
    (b.templates t).Pairwise fun q r => q ≠ r ∧ q.le r = true := by
  unfold templates
  split
  · split
    · exact .nil
    next steps _ => exact (t.nodup_search b.source steps).and (t.pairwise_search b.source steps)
  · exact .nil

theorem stopped_all (b : Build) (limit : Nat) (t : FileTree) :
    b.Stopped limit t (b.templates t) (b.all (b.start limit t) (b.templates t)) :=
  (course_start b limit t).all fun _ => isFile_of_mem_templates

/-- Templates at one location with one target are the same. -/
theorem eq_of_target_eq (hp : p ∈ b.templates t) (hq : q ∈ b.templates t)
    (htarget : b.target q = b.target p) (hlocation : location q = location p) : q = p := by
  have hway {r : Path} (hr : r ∈ b.templates t) : ∃ way name, r = b.source ++ (way ++ [name]) := by
    obtain ⟨hsource, steps, -, hsearch⟩ := mem_templates.mp hr
    obtain ⟨hreach, hfile⟩ := FileTree.mem_search.mp hsearch
    obtain ⟨rest, rfl⟩ := Search.isPrefix_of_mem_reach hreach
    cases rest using List.reverseRecOn with
    | nil =>
      rw [List.append_nil] at hfile
      rw [FileTree.isDirectory_iff] at hsource
      rw [FileTree.isFile, FileTree.content?, hsource] at hfile
      cases hfile
    | append_singleton way name => exact ⟨way, name, rfl⟩
  obtain ⟨way, name, rfl⟩ := hway hp
  obtain ⟨way', name', rfl⟩ := hway hq
  have htarget_eq (way : Path) (name : Text) : b.target (b.source ++ (way ++ [name])) =
      b.output ++ way ++ [withSuffix ".tsx".toList name] := by
    rw [target]
    simp only [List.drop_left, List.dropLast_concat, List.getLast?_concat, Option.map_some,
      Option.toList_some]
  rw [htarget_eq, htarget_eq] at htarget
  have hways := (List.append_inj' htarget rfl).1
  obtain rfl := List.append_cancel_left hways
  rw [← List.append_assoc, ← List.append_assoc, location_snoc, location_snoc] at hlocation
  rw [next_inj hlocation]

end Build

end Stencil
