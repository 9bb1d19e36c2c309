import Stencil.Text.Basic

/-!
# UTF-8

Bytes as a text and back. Where the bytes are not UTF-8, the longest beginning of a character that
could still have been completed is unreadable as a whole, and a byte that begins no character is
unreadable by itself. `decode?` refuses a text with an unreadable part, `decodeLossy` puts the
replacement character in its place.
-/

namespace Stencil.Text

/-- The text in UTF-8. -/
def utf8 (t : Text) : List UInt8 := t.flatMap String.utf8EncodeChar

namespace Utf8

/-- The value of a byte that continues a character. -/
def continuation? (low high : Nat) (b : UInt8) : Option Nat :=
  if low ≤ b.toNat && b.toNat ≤ high then some (b.toNat - 0x80) else none

/-- The least and the greatest second byte that a first byte admits. -/
def secondRange (first : Nat) : Nat × Nat :=
  if first = 0xE0 then (0xA0, 0xBF)
  else if first = 0xED then (0x80, 0x9F)
  else if first = 0xF0 then (0x90, 0xBF)
  else if first = 0xF4 then (0x80, 0x8F)
  else (0x80, 0xBF)

/-- How many bytes follow a first byte, or none if it begins no character. -/
def following? (first : Nat) : Option Nat :=
  if first < 0x80 then some 0
  else if 0xC2 ≤ first && first < 0xE0 then some 1
  else if 0xE0 ≤ first && first < 0xF0 then some 2
  else if 0xF0 ≤ first && first ≤ 0xF4 then some 3
  else none

/-- One more than the greatest value that the first byte of a character with `n` more bytes holds.
-/
def leadBound : Nat → Nat
  | 0 => 0x80
  | 1 => 0x20
  | 2 => 0x10
  | _ => 0x08

/-- Reads `owed` more bytes onto the value `acc`: the character, or none if a byte is missing or
wrong, and how many bytes were read. -/
def continued (acc : Nat) (range : Nat × Nat) : Nat → List UInt8 → Option Char × Nat
  | 0, _ => (some (Char.ofNat acc), 0)
  | _ + 1, [] => (none, 0)
  | owed + 1, b :: bs =>
    match continuation? range.1 range.2 b with
    | none => (none, 0)
    | some v =>
      let (c, taken) := continued (acc * 0x40 + v) (0x80, 0xBF) owed bs
      (c, taken + 1)

/-- The character that begins with byte `b`, or none if it is unreadable, and how many of the bytes
after `b` belong to it. -/
def next (b : UInt8) (bs : List UInt8) : Option Char × Nat :=
  match following? b.toNat with
  | none => (none, 0)
  | some n => continued (b.toNat % leadBound n) (secondRange b.toNat) n bs

/-- The characters of the bytes, none for each unreadable part. -/
def characters : List UInt8 → List (Option Char)
  | [] => []
  | b :: bs => (next b bs).1 :: characters (bs.drop (next b bs).2)
termination_by bs => bs.length
decreasing_by simp only [List.length_drop, List.length_cons]; omega

end Utf8

/-- The text that the bytes spell in UTF-8, if they do. -/
def decode? (bs : List UInt8) : Option Text := (Utf8.characters bs).mapM id

/-- The text of the bytes, with the replacement character for each unreadable part. -/
def decodeLossy (bs : List UInt8) : Text := (Utf8.characters bs).map (·.getD '�')

end Stencil.Text
