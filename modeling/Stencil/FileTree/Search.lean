import Stencil.FileTree.Basic
import Stencil.FileTree.Glob

/-!
# Searching for files

A search goes down from a directory, and from every directory below it, as a pattern says. The parts
of the pattern are file name patterns for the directories on the way and for the file itself; two
stars stand for any number of directories, and two dots lead one directory up. A slash at the end of
a pattern asks for a directory, so no file is found with it.
-/

namespace Stencil

open Text

namespace Search

/-- A part of a pattern. -/
inductive Step where
  | named (pieces : List Glob.Piece)
  /-- The directory itself and every directory below it. -/
  | anywhere
  | up
  /-- The directory itself. -/
  | here
deriving DecidableEq

inductive Fault where
  | absolute
  /-- Two stars next to other characters. -/
  | mixedStars
deriving DecidableEq

def Fault.message : Fault → Text
  | .absolute => "Non-relative patterns are unsupported".toList
  | .mixedStars => "Invalid pattern: '**' can only be an entire path component".toList

def twoStars : Text := ['*', '*']

/-- The step that one part of a pattern asks for. -/
def step (part : Text) : Except Fault Step :=
  if part = twoStars then .ok .anywhere
  else if (cut? twoStars part).isSome then .error .mixedStars
  else if part = Path.dots then .ok .up
  else .ok (.named (Glob.pieces part))

/-- The steps that a pattern asks for. -/
def steps (pattern : Text) : Except Fault (List Step) :=
  if pattern.head? = some '/' then .error .absolute
  else do
    let steps ← (Path.ofText pattern).mapM step
    .ok (if pattern.getLast? = some '/' then steps ++ [.here] else steps)

/-- The paths that the steps lead to from the path of a directory. -/
def reach (t : FileTree) : List Step → Path → List Path
  | [], p => [p]
  | step :: rest, p =>
    match t.locate p with
    | .error _ => []
    | .ok l =>
      if t.get? l ≠ some .directory then []
      else
        match step with
        | .here => reach t rest p
        | .up => reach t rest (p ++ [Path.dots])
        | .anywhere => ([] :: t.directoriesBelow l).flatMap fun way => reach t rest (p ++ way)
        | .named pieces =>
          let admitted := (t.names l).filter (Glob.matchesAll pieces)
          admitted.flatMap fun name => reach t rest (p ++ [name])

end Search

/-- The files that a search below a directory finds, in the order of their paths. -/
def FileTree.search (t : FileTree) (directory : Path) (steps : List Search.Step) : List Path :=
  let found := (Search.reach t (.anywhere :: steps) directory).filter t.isFile
  found.eraseDups.mergeSort Path.le

end Stencil
