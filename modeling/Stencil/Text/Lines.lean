import Stencil.Text.Basic

/-!
# Lines

A line ends at a line feed, a carriage return, the two together, or one of eight rarer line
boundaries. Files are read with every carriage return, alone or before a line feed, as a line feed.
-/

namespace Stencil.Text

/-- Characters that end a line. -/
def isLineEnd (c : Char) : Bool :=
  c ∈ ['\n', '\r', '\x0b', '\x0c', '\x1c', '\x1d', '\x1e', '\u0085', '\u2028', '\u2029']

/-- The lines of the text, without their ends. No line begins after the last line end. -/
def lines : Text → List Text
  | [] => []
  | '\r' :: '\n' :: cs => [] :: lines cs
  | c :: cs =>
    if isLineEnd c then [] :: lines cs
    else
      match lines cs with
      | [] => [[c]]
      | line :: rest => (c :: line) :: rest

/-- Writes every line end made with a carriage return as a line feed. -/
def unifyLineFeeds : Text → Text
  | [] => []
  | '\r' :: '\n' :: cs => '\n' :: unifyLineFeeds cs
  | '\r' :: cs => '\n' :: unifyLineFeeds cs
  | c :: cs => c :: unifyLineFeeds cs

end Stencil.Text
