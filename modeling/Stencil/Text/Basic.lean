/-!
# Text

A text is the list of its code points, so that positions, columns and lengths all count code
points, and what stands before a position is a prefix of a list.
-/

namespace Stencil

/-- A text, as its code points. -/
abbrev Text := List Char

namespace Text

/-- Splits at the first occurrence of `mark`: what stands before it and what stands after it. -/
def cut? (mark : Text) : Text → Option (Text × Text)
  | [] => if mark.isEmpty then some ([], []) else none
  | c :: cs =>
    if mark.isPrefixOf (c :: cs) then some ([], (c :: cs).drop mark.length)
    else
      match cut? mark cs with
      | some (before, after) => some (c :: before, after)
      | none => none

/-- Splits at every occurrence of `c`. -/
def splitOn (c : Char) : Text → List Text
  | [] => [[]]
  | d :: ds =>
    if d = c then [] :: splitOn c ds
    else
      match splitOn c ds with
      | [] => [[d]]
      | piece :: pieces => (d :: piece) :: pieces

/-- Replaces a mark by `new`, from left to right, once `skip` characters have been passed over. -/
def replaceFrom (mark new : Text) : Nat → Text → Text
  | _, [] => []
  | skip + 1, _ :: cs => replaceFrom mark new skip cs
  | 0, c :: cs =>
    if mark.isPrefixOf (c :: cs) then new ++ replaceFrom mark new (mark.length - 1) cs
    else c :: replaceFrom mark new 0 cs

/-- Replaces every occurrence of a mark that is not empty. Of occurrences that overlap the first is
replaced. -/
def replaceAll (mark new t : Text) : Text := replaceFrom mark new 0 t

/-- The texts one after another, with `separator` between neighbours. -/
def joinWith (separator : Text) (ts : List Text) : Text := (ts.intersperse separator).flatten

/-- The decimal numeral of `n`. -/
def ofNat (n : Nat) : Text := Nat.toDigits 10 n

/-- `n` spaces. -/
def spaces (n : Nat) : Text := List.replicate n ' '

/-- The text with spaces in front, up to `width` characters. -/
def padStart (width : Nat) (t : Text) : Text := spaces (width - t.length) ++ t

/-- The lower-case hexadecimal numeral of `n` with zeros in front, up to `width` digits. -/
def hex (width n : Nat) : Text :=
  let digits := Nat.toDigits 16 n
  List.replicate (width - digits.length) '0' ++ digits

end Text

end Stencil
