import Stencil.Text.Blank
import Stencil.Text.Cluster

/-!
# Lines of a given width

Tabs reach to the next multiple of eight cells. A line that takes more cells than it may is broken
between words, and a word that is too wide for a line of its own is broken where the line is full.
-/

namespace Stencil.Text

/-- Joins what stands between tabs. The first part begins at `column`, counted in cells. -/
def joinAtStops (column : Nat) : List Text → Text
  | [] => []
  | [part] => part
  | part :: parts =>
    let reached := column + width (part ++ [' '])
    let gap := (8 - reached % 8) % 8
    part ++ spaces (gap + 1) ++ joinAtStops (reached + gap) parts

/-- A line with spaces for its tabs. -/
def expandTabs (line : Text) : Text := joinAtStops 0 (splitOn '\t' line)

/-- Breaks a text after every run of blanks. -/
def breakAfterBlanks : Text → List Text
  | [] => []
  | c :: cs =>
    match breakAfterBlanks cs with
    | [] => [[c]]
    | run :: runs =>
      if isBlank c && !(run.head?.any isBlank) then [c] :: run :: runs else (c :: run) :: runs

/-- The words of a text, each with the blanks after it. The first one has the blanks in front of it
too. -/
def words (t : Text) : List Text :=
  match breakAfterBlanks t with
  | first :: second :: more =>
    if allBlank first then (first ++ second) :: more else first :: second :: more
  | runs => runs

/-- Breaks a text wherever the next cluster does not fit. The line begun takes `used` cells. -/
def chop (limit used : Nat) (line : Text) : List Cluster → List Text
  | [] => [line]
  | c :: cs =>
    if limit < used + c.cells then line :: chop limit c.cells c.text cs
    else chop limit (used + c.cells) (line ++ c.text) cs

/-- Puts words into lines. The line begun takes `used` cells. Blanks at the end of a line need not
fit. -/
def fill (limit used : Nat) (line : Text) : List Text → List Text
  | [] => [line]
  | word :: words =>
    let needed := width (trimEnd word)
    if used + needed ≤ limit then fill limit (used + width word) (line ++ word) words
    else if limit < needed then
      let parts := chop limit 0 [] (clusters word)
      let last := parts.getLastD []
      (if line.isEmpty then [] else [line]) ++ parts.dropLast ++
        fill limit (width last) last words
    else if used = 0 then fill limit used (line ++ word) words
    else line :: fill limit (width word) word words

/-- Drops blanks at the end of a line that has more than `limit` characters. -/
def dropExcessBlanks (limit : Nat) (line : Text) : Text :=
  let blanks := line.length - (trimEnd line).length
  line.take (line.length - min blanks (line.length - limit))

/-- As many clusters as fit into `room` cells. Half of a wide one is a space. -/
def takeCells (room : Nat) : List Cluster → Text
  | [] => []
  | c :: cs => if c.cells ≤ room then c.text ++ takeCells (room - c.cells) cs else spaces room

/-- As much of a line as fits into `limit` cells. -/
def clip (limit : Nat) (line : Text) : Text :=
  if width line ≤ limit then line else takeCells limit (clusters line)

/-- The lines of `limit` cells at most that show a line. -/
def fold (limit : Nat) (line : Text) : List Text :=
  (fill limit 0 [] (words line)).map fun part => clip limit (dropExcessBlanks limit part)

/-- A text with its tabs expanded and its lines broken where they take more than `limit` cells. -/
def layOut (limit : Nat) (t : Text) : Text :=
  joinWith ['\n'] ((splitOn '\n' t).flatMap fun line => fold limit (expandTabs line))

end Stencil.Text
