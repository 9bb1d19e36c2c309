import Stencil.Text.Basic

/-!
# Text for a terminal

A terminal takes some texts for commands: a sequence of an escape, an opening bracket, parameters,
intermediate characters and a final one sets a colour or moves the cursor, and a few control
characters ring the bell or move the cursor by themselves. What is printed for a reader goes without
them.
-/

namespace Stencil.Text

/-- Digits, the colon, the semicolon and `<`, `=`, `>`, `?`. -/
def isParameter (c : Char) : Bool := '0' ≤ c && c ≤ '?'

/-- The space and the marks up to the slash. -/
def isIntermediate (c : Char) : Bool := ' ' ≤ c && c ≤ '/'

/-- Letters and the marks among them. -/
def isFinal (c : Char) : Bool := '@' ≤ c && c ≤ '~'

/-- How many characters follow the first one of a sequence at the front of a text. -/
def sequence? : Text → Option Nat
  | '\x1b' :: '[' :: cs =>
    let afterParameters := cs.dropWhile isParameter
    let rest := afterParameters.dropWhile isIntermediate
    if rest.head?.any isFinal then some (cs.length - rest.length + 2) else none
  | _ => none

/-- Drops `skip` characters, and every sequence after them. -/
def dropSequences (skip : Nat) : Text → Text
  | [] => []
  | c :: cs =>
    match skip with
    | skip + 1 => dropSequences skip cs
    | 0 =>
      match sequence? (c :: cs) with
      | some more => dropSequences more cs
      | none => c :: dropSequences 0 cs

/-- The text without sequences. What the removal brings together is left as it is. -/
def withoutSequences (t : Text) : Text := dropSequences 0 t

/-- The bell, the backspace, the vertical tab, the form feed and the carriage return. -/
def isCommand (c : Char) : Bool := c ∈ ['\x07', '\x08', '\x0b', '\x0c', '\r']

/-- The text without characters that are commands by themselves. -/
def withoutCommands (t : Text) : Text := t.filter (!isCommand ·)

end Stencil.Text
