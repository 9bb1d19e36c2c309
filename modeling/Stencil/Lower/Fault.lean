import Stencil.Node.Printer
import Stencil.Report
import Stencil.Style.Declaration

/-!
# Faults of lowering

Lowering turns a tree into markup of the generated source. It fails where the tree has a construct
that has no counterpart there, where a style attribute cannot be read as declarations, and where
the tree is nested too deeply. A fault quotes the construct it is about in its written form, so a
foreign node, which has none, is a fault of its own wherever it would have to be quoted.
-/

namespace Stencil.Lower

/-- A construct in a place that has no room for it. -/
inductive Misuse where
  | inValue (kind : Text)
  | inStyle (kind : Text)
  | iterationInStyle
  | iterationOfAttributes
  | expressionAsAttribute
  | lateEvaluation
  | strayAttribute
deriving DecidableEq

def Misuse.message : Misuse → Text
  | .inValue kind => kind ++ " cannot be used inside an attribute value".toList
  | .inStyle kind => kind ++ " cannot be used inside a style attribute".toList
  | .iterationInStyle => "Iteration is not supported inside a style attribute".toList
  | .iterationOfAttributes => "Iteration cannot wrap attributes".toList
  | .expressionAsAttribute => "Expressions cannot stand in for attributes".toList
  | .lateEvaluation => "Evaluated blocks are only supported at the start of the template".toList
  | .strayAttribute => "Attribute outside of a tag".toList

inductive Fault where
  | misplaced (misuse : Misuse) (construct : Text)
  /-- A node that is no content. -/
  | unrecognized (kind : Text)
  | style (fault : Style.Fault) (construct : Option Text)
  | tooDeep
  /-- A foreign node would have to be written. -/
  | unwritable (kind : Text)
deriving DecidableEq

namespace Fault

def message : Fault → Text
  | .misplaced misuse _ => misuse.message
  | .unrecognized kind => "Unrecognized node shape ".toList ++ kind
  | .style fault _ => fault.message
  | .tooDeep => "Template nesting is too deep to generate".toList
  | .unwritable kind => "Cannot serialize ".toList ++ kind

def kind : Fault → Report.Kind
  | .misplaced .. | .unrecognized _ => .unsupported
  | .style .. => .style
  | .tooDeep => .nesting
  | .unwritable _ => .generation

def construct? : Fault → Option Text
  | .misplaced _ construct => some construct
  | .style _ construct => construct
  | .unrecognized _ | .tooDeep | .unwritable _ => none

/-- The report on a template in `file`. -/
def report (file : Text) (f : Fault) : Report :=
  { kind := f.kind, detail := f.message, file, position := none, source := none,
    construct := f.construct? }

end Fault

/-- The written form of nodes of which at most `room` levels may be open. -/
def quoteAll (room : Nat) (nodes : List Node) : Except Fault Text :=
  if !Node.allFit room nodes then .error .tooDeep
  else if Node.anyForeign nodes then .error (.unwritable Node.foreign.kindName)
  else .ok (Node.printAll nodes)

/-- The written form of a node. -/
def quote (room : Nat) (n : Node) : Except Fault Text := quoteAll room [n]

/-- Refuses a construct. -/
def refuse {α : Type} (room : Nat) (misuse : Misuse) (n : Node) : Except Fault α :=
  match quote room n with
  | .ok construct => .error (.misplaced misuse construct)
  | .error fault => .error fault

/-- Refuses a style attribute because of the given nodes. -/
def refuseStyle {α : Type} (room : Nat) (fault : Style.Fault) (nodes : List Node) :
    Except Fault α :=
  match quoteAll room nodes with
  | .ok construct => .error (.style fault (some construct))
  | .error fault => .error fault

end Stencil.Lower
