import Stencil.Event.Scan
import Stencil.Frame
import Stencil.LineBreak
import Stencil.Report

/-!
# Parsing

A template is parsed without its line-break formatting. Events reach the builder as they are
scanned, so a construct that is closed wrongly is reported before a fault of the scanner further on.
-/

namespace Stencil

inductive SyntaxFault where
  | lexical (fault : LexFault)
  | structural (fault : StructureFault)
deriving DecidableEq

/-- A fault and its position in the source that was scanned. -/
structure SyntaxError where
  fault : SyntaxFault
  position : Nat
  source : Text
deriving DecidableEq

/-- The tree of the events, or what comes first: a refused event, the fault that ended the scan, or
a construct that is never closed. -/
def Scan.build (source : Text) (s : Scan) : Except SyntaxError Document :=
  match Builder.empty.run s.events with
  | .error ⟨fault, position⟩ => .error ⟨.structural fault, position, source⟩
  | .ok b =>
    match s.error with
    | some ⟨fault, position⟩ => .error ⟨.lexical fault, position, source⟩
    | none =>
      match b.finish with
      | .error ⟨fault, position⟩ => .error ⟨.structural fault, position, source⟩
      | .ok document => .ok document

/-- The tree of a template. -/
def parse (template : Text) : Except SyntaxError Document :=
  let source := collapseLineBreaks template
  (scan source).build source

/-- The report on a template in `file`. -/
def SyntaxError.report (file : Text) (e : SyntaxError) : Report :=
  let (kind, detail) :=
    match e.fault with
    | .lexical fault => (Report.Kind.lexical, fault.message)
    | .structural fault => (Report.Kind.structural, fault.message)
  { kind, detail, file, position := some e.position, source := some e.source, construct := none }

end Stencil
