import Stencil.Lower.Render
import Stencil.Parse

/-!
# Components

A template becomes a component: a source module that exports one function. Statements at the start
of the template, before any other content, are hoisted: they run before the function returns the
markup of the rest.

A `Session` compiles templates one after another. What it remembers of the last one is the list of
imports that its markup asked for.
-/

namespace Stencil

open Text

structure Component where
  config : Config
  imports : List Text
  hoisted : List Text
  expression : Jsx.Expr

/-- The source text of a component. -/
def Component.source (c : Component) : Text :=
  let indent := c.config.indent
  let imports := if c.imports.isEmpty then [] else joinWith ['\n'] c.imports ++ ['\n', '\n']
  let statements := c.hoisted.flatMap fun statement => indent ++ statement ++ ['\n']
  imports ++ "export default function ".toList ++ c.config.functionName ++
    '(' :: c.config.parameters ++ [')', ' ', '{', '\n'] ++
    statements ++ (if c.hoisted.isEmpty then [] else ['\n']) ++
    indent ++ "return ".toList ++ c.expression.print ++ [';', '\n', '}']

/-! ## Documents -/

namespace Document

/-- Whether a node can stand before the content of a template. -/
def isPrelude : Node → Bool
  | .evaluated _ => true
  | n => n.isBlank

/-- The statements that are hoisted. -/
def hoisted (document : Document) : List Text :=
  (document.takeWhile isPrelude).filterMap fun
    | .evaluated code => some code
    | _ => none

/-- What remains after the hoisted statements. -/
def body (document : Document) : List Node := document.dropWhile isPrelude

/-- The markup of a document that is nested up to a limit. An iteration that is the only content
stands in a fragment. -/
def lower (config : Config) (limit : Nat) (document : Document) : Rendering Jsx.Expr :=
  match Node.meaningful (body document) with
  | [.iterator iterable binder content] => do
    let only ← Lower.child config limit (.iterator iterable binder content)
    pure (.fragment [only])
  | _ => Lower.branch config limit (body document)

/-- The text of the markup. -/
def render (config : Config) (limit : Nat) (document : Document) : Rendering Text :=
  match Node.meaningful (body document) with
  | [.iterator iterable binder content] => do
    let only ← Lower.renderNode config limit false (.iterator iterable binder content)
    pure (Lower.fragmentText only)
  | _ => Lower.renderBranch config limit (body document)

/-- The imports that a rendering asks for. -/
def imports {α : Type} (config : Config) (r : Rendering α) : List Text :=
  if r.callsParser then [config.parserImport] else []

/-- The component of a document, given the rendering of its markup. -/
def assemble (config : Config) (document : Document) (r : Rendering Jsx.Expr) :
    Except Lower.Fault Component :=
  match r.outcome with
  | .error fault => .error fault
  | .ok expression => .ok ⟨config, imports config r, hoisted document, expression⟩

/-- The component of a document. -/
def toComponent (config : Config) (document : Document) (limit : Nat := Node.nestingLimit) :
    Except Lower.Fault Component :=
  assemble config document (lower config limit document)

end Document

/-! ## Compiling -/

inductive CompileError where
  | parsing (error : SyntaxError)
  | lowering (fault : Lower.Fault)

/-- The report on a template in `file`. -/
def CompileError.report (file : Text) : CompileError → Report
  | .parsing error => error.report file
  | .lowering fault => fault.report file

/-- The component of a template. -/
def compile (config : Config) (template : Text) (limit : Nat := Node.nestingLimit) :
    Except CompileError Component :=
  match parse template with
  | .error error => .error (.parsing error)
  | .ok document =>
    match Document.toComponent config document limit with
    | .error fault => .error (.lowering fault)
    | .ok component => .ok component

structure Session where
  config : Config
  /-- How deep a template may be nested. -/
  limit : Nat
  imports : List Text

namespace Session

def start (config : Config) (limit : Nat := Node.nestingLimit) : Session := ⟨config, limit, []⟩

/-- The session without the imports of the last template. -/
def reset (s : Session) : Session := { s with imports := [] }

/-- Adds the import of the markup parser, once, if a rendering calls the parser. -/
def record {α : Type} (s : Session) (r : Rendering α) : Session :=
  let parserImport := s.config.parserImport
  if r.callsParser && !s.imports.contains parserImport then
    { s with imports := s.imports ++ [parserImport] }
  else s

/-- Compiles a template. The imports stay as they were if it cannot be parsed, and are those asked
for up to the fault if its markup has one. -/
def compile (s : Session) (template : Text) : Except CompileError Component × Session :=
  match parse template with
  | .error error => (.error (.parsing error), s)
  | .ok document =>
    let r := Document.lower s.config s.limit document
    let s := s.reset.record r
    match r.outcome with
    | .error fault => (.error (.lowering fault), s)
    | .ok expression => (.ok ⟨s.config, s.imports, Document.hoisted document, expression⟩, s)

end Session

end Stencil
