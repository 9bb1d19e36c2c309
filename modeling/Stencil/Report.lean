import Stencil.Text.Basic
import Stencil.Text.Lines

/-!
# Reports

A report says what is wrong with a template, in which file and, if the position in the source is
known, in which line and column, with an excerpt of that line and a caret under the column. Lines
are counted from one, by line feeds only; columns are counted from zero.
-/

namespace Stencil

open Text

/-- A line, counted from one, and a column, counted from zero. -/
structure Place where
  line : Nat
  column : Nat
deriving DecidableEq

/-- The place of a position. Positions after the end of the source lie in its last line. -/
def Place.ofPosition (source : Text) (position : Nat) : Place :=
  let before := source.take position
  let lineStart := before.length - (before.reverse.takeWhile (· ≠ '\n')).length
  ⟨before.count '\n' + 1, position - lineStart⟩

namespace Report

inductive Kind where
  | template | syntactic | lexical | structural | generation | unsupported | style | nesting
deriving DecidableEq

def Kind.title : Kind → Text
  | .template => "Template Error".toList
  | .syntactic => "Syntax Error".toList
  | .lexical => "Lex Error".toList
  | .structural => "Structural Error".toList
  | .generation => "Generation Error".toList
  | .unsupported => "Unsupported Construct".toList
  | .style => "Style Error".toList
  | .nesting => "Nesting Error".toList

end Report

structure Report where
  kind : Report.Kind
  detail : Text
  /-- The file of the template, empty if it has none. -/
  file : Text
  position : Option Nat
  source : Option Text
  /-- The written form of what the report is about. -/
  construct : Option Text
deriving DecidableEq

namespace Report

/-- The report with another file. -/
def locate (r : Report) (file : Text) : Report := { r with file }

def place? (r : Report) : Option Place :=
  match r.source, r.position with
  | some source, some position => some (Place.ofPosition source position)
  | _, _ => none

/-- How many characters an excerpt shows before and after the column. -/
def excerptReach : Nat := 40

/-- The line of a place with a caret below its column. Of a long line only the surroundings of the
column are shown. -/
def excerpt (source : Text) (place : Place) : Text :=
  let line := ((lines source)[place.line - 1]?).getD []
  let start := place.column - excerptReach
  let ellipsis := if start = 0 then [] else "...".toList
  let shown := (line.take (place.column + excerptReach)).drop start
  "\n    |\n".toList ++ padStart 3 (Text.ofNat place.line) ++ " | ".toList ++ ellipsis ++ shown ++
    "\n    | ".toList ++ spaces (ellipsis.length + place.column - start) ++ ['^']

/-- The whole report as text. -/
def format (r : Report) : Text :=
  let file := if r.file.isEmpty then "<template>".toList else r.file
  let located :=
    match r.place? with
    | some place => ':' :: Text.ofNat place.line ++ ':' :: Text.ofNat place.column
    | none => []
  let shown :=
    match r.source, r.place? with
    | some source, some place => excerpt source place
    | _, _ => []
  let about :=
    match r.construct with
    | none | some [] => []
    | some construct => "\n  in: ".toList ++ construct
  r.kind.title ++ ": ".toList ++ r.detail ++ "\n  --> ".toList ++ file ++ located ++ shown ++ about

end Report

end Stencil
