import Stencil.Proofs.Jsx.Code
import Stencil.Proofs.Output

/-!
# What written values mean

A value of an attribute is evaluated in an environment, under an interpretation of the sources in
it. The same goes for code, and the code of a value has the meaning of the value
(`Value.eval_code`). So what is written for a value, read as code and evaluated, has it too.

`Code.run` follows the rules of the generated source for what is undefined: `?.` leaves out all
calls that follow it if there is no list, and a template literal turns every value it inserts into a
string, an undefined one too.
-/

namespace Stencil.Jsx

open Stencil.Jsx.Symbol

/-- What an expression evaluates to. -/
inductive Datum (Value : Type) where
  | null
  | text (t : Text)
  | value (v : Value)

variable {Env Value Setting : Type}

/-- A datum as a string. Null gives no text. -/
def Datum.asText (toText : Value → Text) : Datum Value → Text
  | .null => []
  | .text t => t
  | .value v => toText v

section Values

variable (I : Interpretation Env Value Setting) (toText : Value → Text)

/-! ## Values -/

mutual

/-- The text that a segment of a template literal gives. -/
def Segment.eval (env : Env) : Segment → Text
  | .text value => value
  | .hole code => toText (I.value env code)
  | .choice test yes no =>
    if I.holds env test then Segment.evalAll env yes else Segment.evalAll env no
  | .each iterable params body =>
    (I.list env iterable).zipIdx.flatMap fun (value, i) =>
      Segment.evalAll (I.call env params [value, I.index i]) body

def Segment.evalAll (env : Env) : List Segment → Text
  | [] => []
  | s :: ss => s.eval env ++ Segment.evalAll env ss

end

def Value.eval (env : Env) : Jsx.Value → Datum Value
  | .null => .null
  | .text value => .text value
  | .source code => .value (I.value env code)
  | .choice test yes no => if I.holds env test then yes.eval env else no.eval env
  | .literal segments => .text (Segment.evalAll I toText env segments)

/-! ## Code -/

mutual

def Code.eval (env : Env) : Code → Datum Value
  | .null => .null
  | .string value => .text value
  | .source code => .value (I.value env code)
  | .template pieces => .text (Piece.evalAll env pieces)
  | .choice test yes no => if I.holds env test then yes.eval env else no.eval env
  | .joinedMap list params body =>
    .text ((I.list env list).zipIdx.flatMap fun (value, i) =>
      (body.eval (I.call env params [value, I.index i])).asText toText)

def Piece.eval (env : Env) : Piece → Text
  | .char c => [c]
  | .inserted x => (x.eval env).asText toText

def Piece.evalAll (env : Env) : List Piece → Text
  | [] => []
  | p :: ps => p.eval env ++ Piece.evalAll env ps

end

/-- The meaning of symbols that are one expression. -/
def readWhole (ss : List Symbol) : Option (Env → Datum Value) :=
  (Code.read ss).map fun x env => x.eval I toText env

/-- The meaning of symbols that are the value of an attribute. -/
def readAttribute (ss : List Symbol) : Option (Env → Datum Value) :=
  (Code.readAttribute ss).map fun x env => x.eval I toText env

variable {I toText}

theorem readWhole_of_reads {ss : List Symbol} {x : Code} (h : Reads readCode ss x []) :
    readWhole I toText ss = some fun env => x.eval I toText env := by
  rw [readWhole, read_of_reads h]
  rfl

theorem readAttribute_of_code {ss : List Symbol} {x : Code} (h : Code.readAttribute ss = some x) :
    readAttribute I toText ss = some fun env => x.eval I toText env := by
  rw [readAttribute, h]
  rfl

theorem asText_choice (test : Bool) (yes no : Datum Value) :
    (if test then yes else no).asText toText =
      if test then yes.asText toText else no.asText toText := by
  split <;> rfl

theorem Piece.evalAll_append (env : Env) (ps qs : List Piece) :
    evalAll I toText env (ps ++ qs) = evalAll I toText env ps ++ evalAll I toText env qs := by
  induction ps with
  | nil => rfl
  | cons p ps ih => rw [List.cons_append, evalAll, evalAll, ih, List.append_assoc]

theorem Piece.evalAll_chars (env : Env) (t : Text) : evalAll I toText env (t.map .char) = t := by
  induction t with
  | nil => rfl
  | cons c t ih => rw [List.map_cons, evalAll, ih, eval, List.singleton_append]

namespace Segment

mutual

/-- The pieces of a segment give its text. -/
theorem eval_pieces : ∀ (s : Segment) (env : Env),
    Piece.evalAll I toText env s.pieces = s.eval I toText env
  | .text t, env => by
    rw [pieces, Piece.evalAll_chars, eval]
  | .hole code, env => by
    rw [pieces, Piece.evalAll, Piece.evalAll, List.append_nil, eval, Piece.eval, Code.eval]
    rfl
  | .choice test yes no, env => by
    rw [pieces, Piece.evalAll, Piece.evalAll, List.append_nil, eval, Piece.eval, Code.eval,
      asText_choice, Code.eval, Code.eval, eval_piecesAll yes env, eval_piecesAll no env]
    rfl
  | .each iterable params body, env => by
    rw [pieces, Piece.evalAll, Piece.evalAll, List.append_nil, eval, Piece.eval, Code.eval]
    refine congrArg (fun f => (I.list env iterable).zipIdx.flatMap f) (funext fun p => ?_)
    exact eval_piecesAll body (I.call env params [p.1, I.index p.2])

theorem eval_piecesAll : ∀ (ss : List Segment) (env : Env),
    Piece.evalAll I toText env (piecesAll ss) = evalAll I toText env ss
  | [], _ => rfl
  | s :: ss, env => by
    rw [piecesAll, Piece.evalAll_append, eval_pieces s env, eval_piecesAll ss env, evalAll]

end

end Segment

theorem Value.eval_code (v : Jsx.Value) (env : Env) :
    v.code.eval I toText env = v.eval I toText env := by
  induction v with
  | null | text | source => rw [code, Code.eval, eval]
  | choice test yes no ihyes ihno => rw [code, Code.eval, eval, ihyes, ihno]
  | literal segments => rw [code, Code.eval, eval, Segment.eval_piecesAll]

end Values

/-! ## What is undefined -/

/-- What code comes to when it is run. -/
inductive Computed (Value : Type) where
  | undefined
  | null
  | text (t : Text)
  | value (v : Value)

namespace Computed

variable (toText : Value → Text)

/-- The string that is put into a template literal. -/
def inserted : Computed Value → Text
  | .undefined => "undefined".toList
  | .null => "null".toList
  | .text t => t
  | .value v => toText v

/-- The string of a member of a list that is joined. -/
def joined : Computed Value → Text
  | .undefined | .null => []
  | .text t => t
  | .value v => toText v

end Computed

section Run

variable (I : Interpretation Env Value Setting) (toText : Value → Text)
  (missing : Env → Text → Bool)

mutual

/-- The outcome of code in an environment, where lists may be missing. -/
def Code.run (env : Env) : Code → Computed Value
  | .null => .null
  | .string value => .text value
  | .source code => .value (I.value env code)
  | .template pieces => .text (Piece.textAll env pieces)
  | .choice test yes no => if I.holds env test then yes.run env else no.run env
  | .joinedMap list params body =>
    if missing env list then .undefined
    else .text ((I.list env list).zipIdx.flatMap fun (value, i) =>
      (body.run (I.call env params [value, I.index i])).joined toText)

def Piece.text (env : Env) : Piece → Text
  | .char c => [c]
  | .inserted x => (x.run env).inserted toText

def Piece.textAll (env : Env) : List Piece → Text
  | [] => []
  | p :: ps => p.text env ++ Piece.textAll env ps

end

theorem Piece.textAll_append (env : Env) (ps qs : List Piece) :
    textAll I toText missing env (ps ++ qs) =
      textAll I toText missing env ps ++ textAll I toText missing env qs := by
  induction ps with
  | nil => rfl
  | cons p ps ih => rw [List.cons_append, textAll, textAll, ih, List.append_assoc]

theorem Piece.textAll_chars (env : Env) (t : Text) :
    textAll I toText missing env (t.map .char) = t := by
  induction t with
  | nil => rfl
  | cons c t ih => rw [List.map_cons, textAll, ih, text, List.singleton_append]

end Run

end Stencil.Jsx
