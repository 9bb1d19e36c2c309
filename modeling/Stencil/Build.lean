import Stencil.Component
import Stencil.FileTree.Search
import Stencil.Text.Utf8

/-!
# Building a directory

A build compiles every template below a source directory and writes the component of each to the
same place below an output directory, with the suffix `.tsx`. The list of templates is made before
the first of them is compiled, and all of them are compiled in one session. A template that cannot
be compiled is recorded and the build goes on; a file that cannot be read or written ends it, and
what has been written stays.
-/

namespace Stencil

open Text

structure Build where
  config : Config
  source : Path
  output : Path
  pattern : Text

namespace Build

structure Summary where
  compiled : List Path
  /-- The templates that could not be compiled, and the reports on them. -/
  failed : List (Path × Text)
deriving DecidableEq

inductive Error where
  | noSource (source : Path)
  | pattern (fault : Search.Fault)
  | file (fault : FileFault)
deriving DecidableEq

def Error.message : Error → Text
  | .noSource source => "Template directory not found: ".toList ++ source.text
  | .pattern fault => fault.message
  | .file fault => fault.message

/-- Where the component of a template goes. -/
def target (b : Build) (template : Path) : Path :=
  let relative := template.drop b.source.length
  b.output ++ relative.dropLast ++
    (relative.getLast?.map (Path.withSuffix ".tsx".toList)).toList

/-- The text of a template file. -/
def read (t : FileTree) (template : Path) : Except FileFault Text :=
  match t.content? template with
  | none => .error .missing
  | some content =>
    match decode? content with
    | none => .error .undecodable
    | some text => .ok (unifyLineFeeds text)

/-- The text of a file that holds a component. -/
def fileText (c : Component) : Text := c.source ++ ['\n']

/-- How far a build has got: what has become of the templates so far, the session that compiles them
and the tree. -/
structure Progress where
  summary : Summary
  session : Session
  tree : FileTree

def start (b : Build) (limit : Nat) (t : FileTree) : Progress :=
  ⟨⟨[], []⟩, .start b.config limit, t⟩

/-- Compiles one template: how far the build has got then, and the fault that ends it, if any. -/
def one (b : Build) (p : Progress) (template : Path) : Progress × Option FileFault :=
  match read p.tree template with
  | .error fault => (p, some fault)
  | .ok text =>
    match p.session.compile text with
    | (.error error, session) =>
      let report := (error.report template.text).format
      (⟨{ p.summary with failed := p.summary.failed ++ [(template, report)] }, session, p.tree⟩,
        none)
    | (.ok component, session) =>
      let target := b.target template
      match p.tree.writeThrough target (utf8 (fileText component)) with
      | (tree, some fault) => (⟨p.summary, session, tree⟩, some fault)
      | (tree, none) =>
        (⟨{ p.summary with compiled := p.summary.compiled ++ [target] }, session, tree⟩, none)

/-- Compiles the templates in turn. -/
def all (b : Build) (p : Progress) : List Path → Progress × Option FileFault
  | [] => (p, none)
  | template :: rest =>
    match b.one p template with
    | (p, some fault) => (p, some fault)
    | (p, none) => b.all p rest

/-- Runs a build: the outcome, and the tree that is left in any case. -/
def run (b : Build) (t : FileTree) (limit : Nat := Node.nestingLimit) :
    Except Error Summary × FileTree :=
  if t.isDirectory b.source then
    match Search.steps b.pattern with
    | .error fault => (.error (.pattern fault), t)
    | .ok steps =>
      match b.all (b.start limit t) (t.search b.source steps) with
      | (p, some fault) => (.error (.file fault), p.tree)
      | (p, none) => (.ok p.summary, p.tree)
  else
    match t.locate b.source with
    | .error .nameTooLong => (.error (.file .nameTooLong), t)
    | _ => (.error (.noSource b.source), t)

end Build

end Stencil
