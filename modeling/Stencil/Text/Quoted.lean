import Stencil.Text.Basic
import Stencil.Text.Printable

/-!
# Quoted form

How a message quotes a text: between single quotes, or between double quotes if the text holds a
single quote and no double one. The backslash and the quote in use are escaped, and characters that
do not print are written by their code.
-/

namespace Stencil.Text

def singleQuote : Char := '\x27'
def doubleQuote : Char := '\x22'

/-- One character of a text quoted with `quote`. -/
def quotedChar (quote c : Char) : Text :=
  if c = quote || c = '\\' then ['\\', c]
  else if c = '\t' then ['\\', 't']
  else if c = '\n' then ['\\', 'n']
  else if c = '\r' then ['\\', 'r']
  else if isPrintable c then [c]
  else if c.toNat ≤ 0xFF then '\\' :: 'x' :: hex 2 c.toNat
  else if c.toNat ≤ 0xFFFF then '\\' :: 'u' :: hex 4 c.toNat
  else '\\' :: 'U' :: hex 8 c.toNat

/-- The text between quotes, as messages show it. -/
def quoted (t : Text) : Text :=
  let quote := if singleQuote ∈ t && !(doubleQuote ∈ t) then doubleQuote else singleQuote
  quote :: t.flatMap (quotedChar quote) ++ [quote]

end Stencil.Text
