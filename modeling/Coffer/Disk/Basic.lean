import Coffer.Bytes
import Coffer.Disk.Path

/-!
# The file system

As much of a file system as a store can tell from another: folders and files below the directory it
works in. It is a finite map from places to nodes; a place is the list of names from the working
directory down. The working directory itself is always there, and so are the folders above it, of
which nothing else is known.

## Paths

A path is walked name by name. Before each step the place reached so far must be a folder, so a name
after a missing folder is not found, and a name after a file has no directory to be in. The empty
name and `.` stay where they are, `..` goes up; both need a folder to stand in. A name that is
longer than any node's stops the walk where it would be looked up.

## Replacing a file

A file is replaced by writing a new one next to it and renaming that over it. Nobody sees the new
file before it is complete, so replacing is one step here: it needs the folder of the file to be
there and the file not to be a folder. The new file goes by its full path, so where that would be
too long nothing is replaced, though the path of the file itself may be short enough. A path that
ends in a slash can only be that of a folder, so no file is written or replaced under it. Nor is one
under a path that ends in `.` or `..`: such a path leads to a folder that is there, or nowhere.

## Making and removing folders

Both work name by name, so what was done before a fault stays done.
-/

namespace Coffer

/-- What stands at a place. -/
inductive Node where
  | folder
  | file (content : Bytes)
  deriving Repr, DecidableEq

/-- A place: the names from the working directory down, after a `..` for each step up from it. -/
abbrev Place := List String

/-- Is the place the working directory or a folder above it? -/
def Place.isOuter (p : Place) : Bool := p.all (· = "..")

/-- The place of the folder that a place is in. -/
def Place.up (p : Place) : Place := if p.isOuter then p ++ [".."] else p.dropLast

/-- The nodes of a file system. The working directory is not listed. -/
structure Disk where
  nodes : List (Place × Node) := []
  /-- The length of the full path of the working directory, in bytes. Unless told otherwise it is
  that of a directory for temporary use. -/
  root : Nat := 15
  deriving Repr, DecidableEq

instance : Inhabited Disk := ⟨{}⟩

namespace Disk

/-! ## Nodes -/

/-- What stands at a place. -/
def node? (d : Disk) (p : Place) : Option Node :=
  if p.isOuter then some .folder else d.nodes.lookup p

/-- The file system with a node set. -/
def put (d : Disk) (p : Place) (n : Node) : Disk :=
  { d with nodes := (p, n) :: d.nodes.filter fun entry => entry.1 ≠ p }

/-- The file system without a place and all below it. -/
def prune (d : Disk) (p : Place) : Disk :=
  { d with nodes := d.nodes.filter fun entry => !p.isPrefixOf entry.1 }

/-- The file system without what is below a place. -/
def clear (d : Disk) (p : Place) : Disk :=
  { d with nodes := d.nodes.filter fun entry => !p.isPrefixOf entry.1 || entry.1 = p }

/-- The names in a folder. -/
def namesIn (d : Disk) (p : Place) : List String :=
  d.nodes.filterMap fun (q, _) =>
    match q.getLast? with
    | some name => if q.dropLast = p then some name else none
    | none => none

/-! ## Paths -/

/-- The place that names lead to from `here`. -/
def walk (d : Disk) (here : Place) : List String → Except DiskFault Place
  | [] => .ok here
  | name :: rest =>
    match d.node? here with
    | none => .error .notFound
    | some (.file _) => .error .notDirectory
    | some .folder =>
      if name = "" ∨ name = "." then d.walk here rest
      else if name = ".." then d.walk here.up rest
      else if Path.nameLimit < name.utf8ByteSize then .error .nameTooLong
      else d.walk (here ++ [name]) rest

/-- The place of a path. The last name need not be there. -/
def locate (d : Disk) (path : String) : Except DiskFault Place := do
  let parts ← Path.parts path
  d.walk [] parts

/-- What stands at the end of a path. -/
def stat (d : Disk) (path : String) : Except DiskFault Node := do
  let p ← d.locate path
  match d.node? p with
  | some n => .ok n
  | none => .error .notFound

/-- Do these names lead to a folder? -/
def isFolder (d : Disk) (path : List String) : Bool :=
  match d.walk [] path with
  | .ok p => d.node? p = some .folder
  | .error _ => false

/-- Does a path lead to something? -/
def isThere (d : Disk) (path : String) : Bool :=
  match d.stat path with
  | .ok _ => true
  | .error _ => false

/-! ## Files -/

/-- The content of a file. -/
def read (d : Disk) (path : String) : Except DiskFault Bytes := do
  match ← d.stat path with
  | .file content => .ok content
  | .folder => .error .isDirectory

/-- The length of a file; what cannot be looked at or is a folder counts as empty. -/
def fileLength (d : Disk) (path : String) : Nat :=
  match d.read path with
  | .ok content => content.length
  | .error _ => 0

/-- Can a new file be made in the folder that a path lies in? -/
def checkFolder (d : Disk) (path : String) : Except DiskFault Unit := do
  let p ← d.walk [] (Path.folderNames path)
  match d.node? p with
  | some .folder => .ok ()
  | some (.file _) => .error .notDirectory
  | none => .error .notFound

/-- Can a new file be made next to that of a path, under its full path and a name of its own? -/
def checkBeside (d : Disk) (path : String) : Except DiskFault Unit :=
  let full := d.root + 1 + (Path.folder path).utf8ByteSize + 1 + Path.freshNameLength
  if Path.lengthLimit < full then .error .nameTooLong else d.checkFolder path

/-- Puts a file at the end of a path, new or over its old content. -/
def putFile (d : Disk) (path : String) (content : Bytes) : Except DiskFault Disk := do
  let p ← d.locate path
  if d.node? p = some .folder then .error .isDirectory else return d.put p (.file content)

/-- Writes a file in place. -/
def write (d : Disk) (path : String) (content : Bytes) : Except DiskFault Disk := do
  if Path.endsInSlash path && !Path.endsInDots path then
    let _ ← Path.parts path
    d.checkFolder path
    .error .isDirectory
  else d.putFile path content

/-- Puts a complete new file in the place of a file, where both lie in the same folder. -/
def replace (d : Disk) (path : String) (content : Bytes) : Except DiskFault Disk := do
  d.checkBeside path
  let _ ← Path.parts path
  let _ ← d.walk [] (Path.writtenNames path)
  if Path.endsInDots path then .error .busy
  else if Path.endsInSlash path then .error .notDirectory
  else d.putFile path content

/-- Drops the last `n` bytes of a file. -/
def cut (d : Disk) (path : String) (n : Nat) : Except DiskFault Disk := do
  let content ← d.read path
  d.write path (content.take (content.length - n))

/-- Removes a file. -/
def removeFile (d : Disk) (path : String) : Except DiskFault Disk := do
  let p ← d.locate path
  match d.node? p with
  | some (.file _) => .ok (d.prune p)
  | some .folder => .error .isDirectory
  | none => .error .notFound

/-! ## Folders -/

/-- Makes a folder in a folder that is there. -/
def makeFolder (d : Disk) (path : List String) : Except DiskFault Disk := do
  let p ← d.walk [] path
  match d.node? p with
  | some _ => .error .alreadyExists
  | none => .ok (d.put p .folder)

/-- Makes a folder, and what is above it first if that is missing. A folder that is there already
will do. -/
def makeFolderBelow (d : Disk) (makeAbove : Disk → Except DiskFault Unit × Disk)
    (path : List String) : Except DiskFault Unit × Disk :=
  let settle (d : Disk) (fault : DiskFault) : Except DiskFault Unit × Disk :=
    if d.isFolder path then (.ok (), d) else (.error fault, d)
  match d.makeFolder path with
  | .ok d => (.ok (), d)
  | .error .notFound =>
    match makeAbove d with
    | (.error fault, d) => (.error fault, d)
    | (.ok (), d) =>
      match d.makeFolder path with
      | .ok d => (.ok (), d)
      | .error fault => settle d fault
  | .error fault => settle d fault

/-- Makes a folder and before it those above it that are missing. The names are given from the last
to the first. Folders that were made before a fault stay. -/
def makeFolders (d : Disk) : (reversed : List String) → Except DiskFault Unit × Disk
  | [] => (.ok (), d)
  | name :: above => d.makeFolderBelow (fun d => d.makeFolders above) (name :: above).reverse

/-- Makes the folder of a path and before it those above it that are missing. What counts as above
is what precedes the path's own name, so a folder is not made on account of a `.` behind it. -/
def makeTree (d : Disk) (path : String) : Except DiskFault Unit × Disk :=
  match Path.parts path with
  | .error fault => if path.isEmpty then (.ok (), d) else (.error fault, d)
  | .ok _ =>
    d.makeFolderBelow (fun d => d.makeFolders (Path.folderNames path).reverse)
      (Path.writtenNames path)

/-- Removes a folder and all in it. What is in it goes first, and then the path is walked again. If
it led through what is gone the folder itself stays, and no fault is found with that. A folder
cannot be removed under the name `.`, so then it stays too. -/
def removeFolder (d : Disk) (path : String) : Except DiskFault Unit × Disk :=
  match d.locate path with
  | .error fault => (.error fault, d)
  | .ok p =>
    match d.node? p with
    | none => (.error .notFound, d)
    | some (.file _) => (.error .notDirectory, d)
    | some .folder =>
      let d := d.clear p
      match d.locate path with
      | .error _ => (.ok (), d)
      | .ok p => if Path.endsInDots path then (.error .invalid, d) else (.ok (), d.prune p)

/-- The names in a folder, sorted. -/
def list (d : Disk) (path : String) : Except DiskFault (List String) := do
  let p ← d.locate path
  match d.node? p with
  | some .folder => .ok ((d.namesIn p).mergeSort fun a b => decide (a ≤ b))
  | some (.file _) => .error .notDirectory
  | none => .error .notFound

end Disk

end Coffer
