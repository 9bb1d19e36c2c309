import Stencil.FileTree.Path
import Stencil.Text.Utf8

/-!
# File trees

The files and directories of a working directory, by location. The working directory, the
directories around it and the root are always there; nothing else outside is known unless it has
been put there. A path is followed from the working directory, and every directory that it goes
through has to be there, also before two dots.

Operations that can fail half-way give the tree that is left with the fault. These are the ones that
make several directories. Writing a file cannot: it puts the whole content in place, or it fails
before the file is touched, so there is no tree in which a file has been emptied and not written.
-/

namespace Stencil

inductive FileTree.Entry where
  | file (content : List UInt8)
  | directory
deriving DecidableEq

/-- The entries by location, at most one for each. -/
structure FileTree where
  entries : List (Path × FileTree.Entry)
  nodup : (entries.map Prod.fst).Nodup

inductive FileFault where
  | missing
  | isDirectory
  | alreadyExists
  /-- A file stands where a directory is needed. -/
  | notDirectory
  | nameTooLong
  /-- The content is not UTF-8. -/
  | undecodable
deriving DecidableEq

def FileFault.message : FileFault → Text
  | .missing => "No such file".toList
  | .isDirectory => "Is a directory".toList
  | .alreadyExists => "File exists".toList
  | .notDirectory => "Not a directory".toList
  | .nameTooLong => "File name too long".toList
  | .undecodable => "Not valid UTF-8".toList

namespace FileTree

def empty : FileTree := ⟨[], .nil⟩

/-! ## Locations -/

/-- What is at a location. -/
def get? (t : FileTree) (l : Path) : Option Entry :=
  if l.isSurrounding then some .directory else t.entries.lookup l

/-- The tree without an entry at the location. -/
def erase (t : FileTree) (l : Path) : FileTree :=
  ⟨t.entries.filter (·.1 ≠ l), t.nodup.sublist (List.filter_sublist.map Prod.fst)⟩

/-- The tree with the given entry at the location. -/
def set (t : FileTree) (l : Path) (e : Entry) : FileTree :=
  ⟨(l, e) :: (t.erase l).entries, List.nodup_cons.2 ⟨by simp [erase], (t.erase l).nodup⟩⟩

/-- The names of what is in the directory at a location. -/
def names (t : FileTree) (l : Path) : List Text :=
  t.entries.filterMap fun (q, _) =>
    match l.below? q with
    | some [name] => some name
    | _ => none

/-- The ways down from a location to the directories below it. -/
def directoriesBelow (t : FileTree) (l : Path) : List Path :=
  t.entries.filterMap fun (q, e) => if e = .directory then l.below? q else none

/-! ## Paths -/

/-- The number of bytes that a name may have. -/
def nameLimit : Nat := 255

/-- The location that one part leads to. -/
def follow (t : FileTree) (l : Path) (part : Text) : Except FileFault Path :=
  match t.get? l with
  | none => .error .missing
  | some (.file _) => .error .notDirectory
  | some .directory =>
    if part = Path.dots then .ok l.up
    else if nameLimit < (Text.utf8 part).length then .error .nameTooLong
    else .ok (l ++ [part])

/-- The location that a path leads to. There need not be anything at it. -/
def locate (t : FileTree) (p : Path) : Except FileFault Path := p.foldlM t.follow []

/-- What a path leads to. -/
def find? (t : FileTree) (p : Path) : Option Entry :=
  match t.locate p with
  | .ok l => t.get? l
  | .error _ => none

def isDirectory (t : FileTree) (p : Path) : Bool := t.find? p = some .directory

/-- The content of the file at a path. -/
def content? (t : FileTree) (p : Path) : Option (List UInt8) :=
  match t.find? p with
  | some (.file content) => some content
  | _ => none

def isFile (t : FileTree) (p : Path) : Bool := (t.content? p).isSome

/-! ## Changes -/

/-- Makes a directory in one that is there. -/
def makeDirectory (t : FileTree) (p : Path) : Except FileFault FileTree :=
  match t.locate p with
  | .error fault => .error fault
  | .ok l => if (t.get? l).isSome then .error .alreadyExists else .ok (t.set l .directory)

/-- The outcome of making a directory that may be there already. -/
def settled (t : FileTree) (p : Path) : Except FileFault FileTree → FileTree × Option FileFault
  | .ok t => (t, none)
  | .error fault => (t, if t.isDirectory p then none else some fault)

/-- Makes directories at a path, given in reverse, and wherever one is missing on the way. -/
def makeOnTheWay (t : FileTree) : List Text → FileTree × Option FileFault
  | [] => (t, none)
  | part :: around =>
    let p := (part :: around).reverse
    match t.makeDirectory p with
    | .error .missing =>
      match t.makeOnTheWay around with
      | (t, none) => t.settled p (t.makeDirectory p)
      | (t, some fault) => (t, some fault)
    | outcome => t.settled p outcome

/-- Makes a directory at the path and wherever one is missing on the way to it. -/
def makeDirectories (t : FileTree) (p : Path) : FileTree × Option FileFault :=
  t.makeOnTheWay p.reverse

/-- Writes a file in a directory that is there. -/
def write (t : FileTree) (p : Path) (content : List UInt8) : Except FileFault FileTree :=
  match t.locate p with
  | .error fault => .error fault
  | .ok l =>
    if t.get? l = some .directory then .error .isDirectory else .ok (t.set l (.file content))

/-- Writes a file and makes the directories it needs. -/
def writeThrough (t : FileTree) (p : Path) (content : List UInt8) : FileTree × Option FileFault :=
  match t.makeDirectories p.parent with
  | (t, some fault) => (t, some fault)
  | (t, none) =>
    match t.write p content with
    | .ok t => (t, none)
    | .error fault => (t, some fault)

/-- Removes a file. -/
def delete (t : FileTree) (p : Path) : Except FileFault FileTree :=
  match t.locate p with
  | .error fault => .error fault
  | .ok l =>
    match t.get? l with
    | none => .error .missing
    | some .directory => .error .isDirectory
    | some (.file _) => .ok (t.erase l)

/-- The files in the working directory and below it with their contents, in the order of their
locations as texts. -/
def files (t : FileTree) : List (Path × List UInt8) :=
  let found := t.entries.filterMap fun (l, e) =>
    match e with
    | .file content => if l.descends then some (l, content) else none
    | .directory => none
  found.mergeSort fun a b => !decide (b.1.text < a.1.text)

end FileTree

end Stencil
