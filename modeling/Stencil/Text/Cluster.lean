import Stencil.Text.Basic
import Stencil.Text.CellWidth

/-!
# Clusters of characters

What a reader takes for one character can be several: characters without a width belong to the one
before them, a zero width joiner binds what follows it to what precedes it, and a variation selector
asks for the emoji of the character before it, which may be wider. Columns of a line count cells,
and a line is never broken inside a cluster.
-/

namespace Stencil.Text

/-- The zero width joiner. -/
def joiner : Char := '\u200d'

/-- The variation selector that asks for an emoji. -/
def emojiSelector : Char := '\ufe0f'

/-- The number of cells that a text takes after the character `last`, if there is one whose emoji
can be asked for. -/
def widthAfter (last : Option Char) : Text → Nat
  | [] => 0
  | c :: cs =>
    if c = joiner then
      match cs with
      | [] => 0
      | _ :: cs => widthAfter last cs
    else if c = emojiSelector then (if last.any isWidened then 1 else 0) + widthAfter none cs
    else if cells c = 0 then widthAfter last cs
    else cells c + widthAfter (some c) cs

/-- The number of cells that a text takes. -/
def width (t : Text) : Nat := widthAfter none t

/-- Characters that are shown as one, in so many cells. -/
structure Cluster where
  text : Text
  cells : Nat

/-- The clusters of a text, the first of which is begun. Its character `last` can be shown as an
emoji. -/
def clustersAfter (begun : Cluster) (last : Option Char) : Text → List Cluster
  | [] => [begun]
  | c :: cs =>
    if c = joiner then
      match cs with
      | [] => [⟨begun.text ++ [c], begun.cells⟩]
      | d :: cs => clustersAfter ⟨begun.text ++ [c, d], begun.cells⟩ last cs
    else if c = emojiSelector && last.any isWidened then
      clustersAfter ⟨begun.text ++ [c], begun.cells + 1⟩ none cs
    else if cells c = 0 then clustersAfter ⟨begun.text ++ [c], begun.cells⟩ last cs
    else begun :: clustersAfter ⟨[c], cells c⟩ (some c) cs

/-- The clusters of a text. -/
def clusters : Text → List Cluster
  | [] => []
  | c :: cs => clustersAfter ⟨[c], cells c⟩ (if cells c = 0 then none else some c) cs

end Stencil.Text
