import Stencil.Text.Basic
import Stencil.Text.CodePoints

/-!
# Blank characters

The 29 characters that count as white space, and removing them from the ends of a text. The zero
width space, the word joiner and the byte order mark are not blank.
-/

namespace Stencil.Text

def blankRanges : List (Nat × Nat) :=
  [(0x9, 0xD), (0x1C, 0x20), (0x85, 0x85), (0xA0, 0xA0), (0x1680, 0x1680), (0x2000, 0x200A),
   (0x2028, 0x2029), (0x202F, 0x202F), (0x205F, 0x205F), (0x3000, 0x3000)]

def isBlank (c : Char) : Bool := inRanges blankRanges c.toNat

/-- The text without the blanks it begins with. -/
def trimStart (t : Text) : Text := t.dropWhile isBlank

/-- The text without the blanks it ends with. -/
def trimEnd (t : Text) : Text := (t.reverse.dropWhile isBlank).reverse

/-- The text without the blanks at either end. -/
def trim (t : Text) : Text := trimEnd (trimStart t)

/-- Whether the text has no other characters than blanks. -/
def allBlank (t : Text) : Bool := t.all isBlank

end Stencil.Text
