import Stencil.Text.Basic

/-!
# Paths

A path is the list of its parts, as it is written. The path of the working directory has no parts,
the first part of an absolute path is empty, and two dots lead one directory up. Where a path leads
depends on the directories it goes through, so the dots are kept.

A location is where a path has led to. In a location two dots stand only in front, where they lead
out of the working directory.
-/

namespace Stencil

open Text

abbrev Path := List Text

namespace Path

/-- The part that leads one directory up. -/
def dots : Text := ['.', '.']

/-- The path of the root directory. -/
def root : Path := [[]]

/-- The path that a text names. Empty parts and single dots do not count. -/
def ofText (t : Text) : Path :=
  let parts := (splitOn '/' t).filter fun part => !part.isEmpty && part ≠ ['.']
  if t.head? = some '/' then [] :: parts else parts

/-- The path as text, a single dot for the working directory. -/
def text (p : Path) : Text :=
  if p.isEmpty then ['.'] else if p = root then ['/'] else joinWith ['/'] p

/-- The path without its last part. -/
def parent (p : Path) : Path := if p = root then root else p.dropLast

/-- Paths are ordered part by part, and parts by code points. -/
def le (p q : Path) : Bool := !decide (q < p)

/-! ## Locations -/

/-- Whether the location is the working directory, a directory around it, or the root. -/
def isSurrounding (l : Path) : Bool := l.all (· = dots) || l = root

/-- The location one directory up. The root has none above it. -/
def up (l : Path) : Path :=
  if l = root then root else if isSurrounding l then l ++ [dots] else l.dropLast

/-- Whether the path goes on downwards from where it starts. -/
def descends (p : Path) : Bool := p.head?.any fun part => !part.isEmpty && part ≠ dots

/-- The way from a location down to another that is below it. -/
def below? (l q : Path) : Option Path :=
  let rest := q.drop l.length
  if l.isPrefixOf q && descends rest then some rest else none

/-! ## Suffixes -/

/-- The last suffix of a file name: the last dot and what follows it. A dot at either end of the
name begins no suffix. -/
def suffix (name : Text) : Text :=
  let after := (name.reverse.takeWhile (· ≠ '.')).length
  let start := name.length - after - 1
  if after = 0 || name.length ≤ after + 1 then [] else name.drop start

/-- The file name with its last suffix replaced, or the suffix added if there is none. -/
def withSuffix (new : Text) (name : Text) : Text :=
  name.take (name.length - (suffix name).length) ++ new

end Path

end Stencil
