import Stencil.Text.Basic

/-!
# File name patterns

In a pattern a star stands for any characters, a question mark for one, and a bracketed set for one
of its characters, or for one of all others if the set begins with an exclamation mark. A set lists
characters and ranges; a closing bracket that comes first is one of its characters. An opening
bracket without its closing one stands for itself.

A range that holds no character counts as if it had not been written. This is so also for the
exclamation mark: it negates if it comes first without such ranges.
-/

namespace Stencil

open Text

namespace Glob

/-- What a set lists. -/
inductive Item where
  | char (c : Char)
  | range (low high : Char)
deriving DecidableEq

def Item.admits : Item → Char → Bool
  | .char c, d => c = d
  | .range low high, d => low ≤ d && d ≤ high

/-- Whether an item holds any character. -/
def Item.isInhabited : Item → Bool
  | .char _ => true
  | .range low high => low ≤ high

inductive Piece where
  | anyText
  | anyChar
  | char (c : Char)
  | oneOf (negated : Bool) (items : List Item)
deriving DecidableEq

/-- The items of a set. A hyphen at either end of it, or after a range, stands for itself. -/
def items : Text → List Item
  | [] => []
  | low :: '-' :: high :: cs => .range low high :: items cs
  | c :: cs => .char c :: items cs

/-- The set of the given items. An exclamation mark that comes first negates, and the hyphen of a
range that began with it stands for itself. -/
def setOf (all : List Item) : Piece :=
  match all.filter Item.isInhabited with
  | .char '!' :: rest => .oneOf true rest
  | .range '!' high :: rest => .oneOf true (.char '-' :: .char high :: rest)
  | rest => .oneOf false rest

/-- What stands between the brackets of a set, given what follows the opening one and a possible
exclamation mark, and what follows the closing one. -/
def setInside? : Text → Option (Text × Text)
  | ']' :: cs =>
    match cut? [']'] cs with
    | some (inside, rest) => some (']' :: inside, rest)
    | none => none
  | cs => cut? [']'] cs

/-- The set that follows an opening bracket, and how many characters it takes. -/
def set? : Text → Option (Piece × Nat)
  | '!' :: cs =>
    match setInside? cs with
    | some (inside, _) => some (.oneOf true (items inside), inside.length + 2)
    | none => none
  | cs =>
    match setInside? cs with
    | some (inside, _) => some (setOf (items inside), inside.length + 1)
    | none => none

/-- The pieces of a pattern. -/
def pieces : Text → List Piece
  | [] => []
  | c :: cs =>
    if c = '*' then .anyText :: pieces cs
    else if c = '?' then .anyChar :: pieces cs
    else if c = '[' then
      match set? cs with
      | some (set, taken) => set :: pieces (cs.drop taken)
      | none => .char '[' :: pieces cs
    else .char c :: pieces cs
termination_by t => t.length
decreasing_by all_goals simp only [List.length_drop, List.length_cons]; omega

def Piece.admits : Piece → Char → Bool
  | .anyText, _ | .anyChar, _ => true
  | .char c, d => c = d
  | .oneOf negated items, d => items.any (·.admits d) != negated

/-- The text and all that is left of it after dropping characters from its front. -/
def tails : Text → List Text
  | [] => [[]]
  | c :: cs => (c :: cs) :: tails cs

/-- Whether the pieces stand for exactly the given text. -/
def matchesAll : List Piece → Text → Bool
  | [], t => t.isEmpty
  | .anyText :: ps, t => (tails t).any (matchesAll ps)
  | p :: ps, t =>
    match t with
    | [] => false
    | c :: cs => p.admits c && matchesAll ps cs

end Glob

end Stencil
