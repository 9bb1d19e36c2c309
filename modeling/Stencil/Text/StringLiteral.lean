import Stencil.Text.Basic

/-!
# String literals

Double-quoted string literals of the generated source and of JSON. In the plain form only the quote,
the backslash and the control characters below the space are escaped; in the ASCII form also every
character outside printable ASCII, by its UTF-16 units.
-/

namespace Stencil.Text

/-- The UTF-16 units of a character. -/
def utf16 (c : Char) : List Nat :=
  let n := c.toNat
  if n < 0x10000 then [n]
  else [0xD800 + (n - 0x10000) / 0x400, 0xDC00 + (n - 0x10000) % 0x400]

/-- The escapes that have a letter of their own, and the quote and the backslash. -/
def shortEscape? (c : Char) : Option Text :=
  if c = '\x22' then some ['\\', '\x22']
  else if c = '\\' then some ['\\', '\\']
  else if c = '\n' then some ['\\', 'n']
  else if c = '\r' then some ['\\', 'r']
  else if c = '\t' then some ['\\', 't']
  else if c = '\x0c' then some ['\\', 'f']
  else if c = '\x08' then some ['\\', 'b']
  else none

/-- A character of a literal in which the characters outside `verbatim` are written by their
code. -/
def escapedChar (verbatim : Char → Bool) (c : Char) : Text :=
  match shortEscape? c with
  | some escape => escape
  | none =>
    if verbatim c then [c]
    else (utf16 c).flatMap fun unit => '\\' :: 'u' :: hex 4 unit

/-- The text as a string literal, with all but control characters as they are. -/
def stringLiteral (t : Text) : Text :=
  '\x22' :: t.flatMap (escapedChar fun c => ' ' ≤ c) ++ ['\x22']

/-- The text as a string literal in printable ASCII. -/
def asciiLiteral (t : Text) : Text :=
  '\x22' :: t.flatMap (escapedChar fun c => ' ' ≤ c && c ≤ '~') ++ ['\x22']

end Stencil.Text
