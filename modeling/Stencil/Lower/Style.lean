import Stencil.Jsx.Style
import Stencil.Lower.Literal

/-!
# Style objects from attribute values

A value of literal text alone is read as declarations in one go. Any other value is read part by
part, the reader being either in the name or in the value of a declaration: an expression belongs
to a value, a conditional in a value chooses a piece of it, and a conditional where a declaration
could begin chooses between declarations. A declaration whose value is empty is left out.

A conditional inside a value may end the declaration: a semicolon at the very end of one of its
branches does, also in an else-if.
-/

namespace Stencil.Lower

open Jsx (Segment StyleEntry)
open Text

/-! ## Iterations -/

mutual

/-- Refuses an iteration, also one in a branch of a conditional. -/
def rejectIteration (room : Nat) : Node → Except Fault Unit
  | .iterator iterable binder children =>
    refuse room .iterationInStyle (.iterator iterable binder children)
  | .conditional _ children alternate =>
    match room with
    | 0 => .error .tooDeep
    | room + 1 => do
      rejectIterations room children
      rejectBranchIterations room alternate
  | _ => .ok ()

def rejectIterations (room : Nat) : List Node → Except Fault Unit
  | [] => .ok ()
  | n :: ns => do
    rejectIteration room n
    rejectIterations room ns

def rejectBranchIterations (room : Nat) : Option (List Node) → Except Fault Unit
  | none => .ok ()
  | some ns => rejectIterations room ns

end

/-! ## Conditionals inside a value -/

mutual

/-- The last part of a value without a semicolon at its very end, and whether there was one. -/
def stripLast : Node → Node × Bool
  | .text value =>
    let last := trimEnd value
    if last.getLast? = some ';' then (.text last.dropLast, true) else (.text value, false)
  | .conditional test children alternate =>
    let (children, ends) := stripTerminator children
    let (alternate, endsAlternate) := stripBranchTerminator alternate
    (.conditional test children alternate, ends || endsAlternate)
  | n => (n, false)

/-- The parts without a semicolon at their very end, and whether there was one. -/
def stripTerminator : List Node → List Node × Bool
  | [] => ([], false)
  | [n] =>
    let (n, ends) := stripLast n
    ([n], ends)
  | n :: ns =>
    let (ns, ends) := stripTerminator ns
    (n :: ns, ends)

def stripBranchTerminator : Option (List Node) → Option (List Node) × Bool
  | none => (none, false)
  | some ns =>
    let (ns, ends) := stripTerminator ns
    (some ns, ends)

end

mutual

/-- Whether a semicolon stands in the literal text of a part. -/
def hasSemicolon : Node → Bool
  | .text value => value.contains ';'
  | .conditional _ children alternate => anySemicolon children || branchSemicolon alternate
  | _ => false

def anySemicolon : List Node → Bool
  | [] => false
  | n :: ns => hasSemicolon n || anySemicolon ns

def branchSemicolon : Option (List Node) → Bool
  | none => false
  | some ns => anySemicolon ns

end

/-- A conditional inside a value: the segment it becomes, and whether it ends the declaration. -/
def choiceInValue (room : Nat) (test : Text) (children : List Node)
    (alternate : Option (List Node)) : Except Fault (Segment × Bool) :=
  let (yes, endsYes) := stripTerminator children
  let (no, endsNo) := stripBranchTerminator alternate
  if anySemicolon yes || branchSemicolon no then
    refuseStyle room .severalDeclarations [.conditional test children alternate]
  else do
    let yes ← segments room yes
    let no ← branchSegments room no
    .ok (.choice test yes no, endsYes || endsNo)

/-! ## Reading declarations -/

/-- A piece of literal text between delimiters, or a delimiter. -/
inductive Chunk where
  | text (value : Text)
  | colon
  | semicolon
deriving DecidableEq

/-- Splits at colons and semicolons. There is a piece of text, perhaps an empty one, before, between
and after the delimiters. -/
def chunks : Text → List Chunk
  | [] => [.text []]
  | c :: cs =>
    if c = ':' then .text [] :: .colon :: chunks cs
    else if c = ';' then .text [] :: .semicolon :: chunks cs
    else
      match chunks cs with
      | .text value :: rest => .text (c :: value) :: rest
      | rest => .text [c] :: rest

/-- Where in a declaration the reader is. -/
inductive Reading where
  | name (name : Text)
  | value (name : Text) (pieces : List Segment)

/-- The first piece without the blanks it begins with, if it is text. -/
def trimFirst : List Segment → List Segment
  | .text value :: rest => .text (trimStart value) :: rest
  | pieces => pieces

/-- The last piece without the blanks it ends with, if it is text. -/
def trimLast : List Segment → List Segment
  | [] => []
  | [.text value] => [.text (trimEnd value)]
  | piece :: rest => piece :: trimLast rest

/-- Whether a piece adds anything to a value. -/
def isPresent : Segment → Bool
  | .text [] => false
  | _ => true

/-- The literal text of the pieces. -/
def plainText (pieces : List Segment) : Text :=
  pieces.flatMap fun
    | .text value => value
    | _ => []

/-- The entry of a declaration, none if its value is empty. -/
def entry (name : Text) (pieces : List Segment) : Except Fault (List StyleEntry) :=
  let pieces := (trimLast (trimFirst pieces)).filter isPresent
  if pieces.isEmpty then .ok []
  else if allBlank name then .error (.style .namelessDeclaration none)
  else if pieces.all Segment.isText then
    .ok [.plain (Style.key (trim name)) (plainText pieces)]
  else .ok [.composed (Style.key (trim name)) pieces]

/-- Reads one chunk: the entries it completes, and where the reader is then. `whole` is what a fault
quotes. -/
def readChunk (room : Nat) (whole : List Node) :
    Reading → Chunk → Except Fault (List StyleEntry × Reading)
  | .name name, .semicolon =>
    if allBlank name then .ok ([], .name [])
    else refuseStyle room (.malformed (trim name)) whole
  | .name name, .colon => .ok ([], .value name [])
  | .name name, .text value => .ok ([], .name (name ++ value))
  | .value name pieces, .semicolon => do
    let done ← entry name pieces
    .ok (done, .name [])
  | .value name pieces, .colon => .ok ([], .value name (pieces ++ [.text [':']]))
  | .value name pieces, .text value => .ok ([], .value name (pieces ++ [.text value]))

def readChunks (room : Nat) (whole : List Node) :
    Reading → List Chunk → Except Fault (List StyleEntry × Reading)
  | reading, [] => .ok ([], reading)
  | reading, c :: cs => do
    let (done, reading) ← readChunk room whole reading c
    let (later, reading) ← readChunks room whole reading cs
    .ok (done ++ later, reading)

/-- The entries that the end of the text completes. -/
def finishReading (room : Nat) (whole : List Node) :
    Reading → Except Fault (List StyleEntry)
  | .value name pieces => entry name pieces
  | .name name =>
    if allBlank name then .ok [] else refuseStyle room (.malformed (trim name)) whole

/-- An expression, which can only stand in a value. -/
def readHole (room : Nat) (n : Node) (source : Text) : Reading → Except Fault Reading
  | .name _ => refuseStyle room .dynamicName [n]
  | .value name pieces => .ok (.value name (pieces ++ [.hole source]))

mutual

/-- Reads one part: the entries it completes, and where the reader is then. -/
def readPart (room : Nat) (whole : List Node) (reading : Reading) :
    Node → Except Fault (List StyleEntry × Reading)
  | .text value => readChunks room whole reading (chunks value)
  | .encoded source => do
    let reading ← readHole room (.encoded source) source reading
    .ok ([], reading)
  | .interpolated source => do
    let reading ← readHole room (.interpolated source) source reading
    .ok ([], reading)
  | .comment _ => .ok ([], reading)
  | .conditional test children alternate =>
    match reading with
    | .value name pieces => do
      let (choice, ends) ← choiceInValue room test children alternate
      if ends then
        let done ← entry name (pieces ++ [choice])
        .ok (done, .name [])
      else .ok ([], .value name (pieces ++ [choice]))
    | .name name =>
      if allBlank name then do
        let yes ← readParts room children (.name []) children
        let no ← readBranch room alternate
        .ok ([.spread test yes no], .name name)
      else refuseStyle room .dynamicName [.conditional test children alternate]
  | n => refuse room (.inStyle n.kindName) n

/-- The entries of the parts that are left. -/
def readParts (room : Nat) (whole : List Node) (reading : Reading) :
    List Node → Except Fault (List StyleEntry)
  | [] => finishReading room whole reading
  | n :: ns => do
    let (done, reading) ← readPart room whole reading n
    let later ← readParts room whole reading ns
    .ok (done ++ later)

/-- The entries of an else branch, none if there is no such branch. -/
def readBranch (room : Nat) : Option (List Node) → Except Fault (List StyleEntry)
  | none => .ok []
  | some ns => readParts room ns (.name []) ns

end

/-- The style object of an attribute value. -/
def style (room : Nat) (parts : List Node) : Except Fault Jsx.Style := do
  rejectIterations room parts
  if parts.all fun n => n.isText || n.isComment then
    let literal := Node.literalText parts
    match Style.declarations literal with
    | .error fault => .error (.style fault none)
    | .ok [] => .error (.style .noDeclarations (some literal))
    | .ok declarations => .ok (.literal declarations)
  else
    let entries ← readParts room parts (.name []) parts
    if entries.isEmpty then refuseStyle room .noDeclarations parts else .ok (.entries entries)

end Stencil.Lower
