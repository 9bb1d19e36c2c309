import Stencil.Cli.Run

/-!
# The program

Reads the files that the arguments name, runs the command on them, and writes the files that have
changed.
-/

namespace Stencil.Cli

def osPath (p : Path) : String := String.ofList p.text

/-- The tree with what is found at a location and, if it is a directory, below it. -/
partial def load (t : FileTree) (l : Path) (deep : Bool) : IO FileTree := do
  let file := (← IO.currentDir) / osPath l
  if ← file.isDir then
    let t := if l.isSurrounding then t else t.set l .directory
    if deep then
      let entries ← file.readDir
      entries.foldlM (fun t entry => load t (l ++ [entry.fileName.toList]) true) t
    else return t
  else if ← file.pathExists then
    return t.set l (.file (← IO.FS.readBinFile file).toList)
  else return t

/-- The tree with what is found on the way along a path and at its end. -/
def loadAlong (t : FileTree) (p : Path) : IO FileTree :=
  (List.range (p.length + 1)).foldlM
    (fun t n =>
      match t.locate (p.take n) with
      | .ok l => load t l (n = p.length)
      | .error _ => pure t)
    t

/-- Makes the directories and writes the files that are new or have changed. -/
def store (old new : FileTree) : IO Unit :=
  new.entries.reverse.forM fun (l, e) => do
    if old.get? l ≠ some e then
      match e with
      | .directory => IO.FS.createDirAll (osPath l)
      | .file content => IO.FS.writeBinFile (osPath l) ⟨content.toArray⟩

end Stencil.Cli

open Stencil Stencil.Cli in
def main (args : List String) : IO UInt32 := do
  let args := args.map String.toList
  let named :=
    match request args with
    | .ok r => r.paths
    | .error _ => []
  let tree ← named.foldlM loadAlong .empty
  let input ← if args.contains standardInput then (← IO.getStdin).readToEnd else pure ""
  let outcome := run ⟨tree, input.toList⟩ args
  store tree outcome.tree
  IO.print (String.ofList outcome.output)
  for notice in outcome.notices do
    IO.eprintln (String.ofList ((notice.title.map (· ++ ['\n'])).getD [] ++ notice.body))
  if let some error := outcome.crash then
    IO.eprintln (String.ofList error.message)
  return UInt32.ofNat outcome.status
