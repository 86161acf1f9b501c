import Coffer.Disk.Fault
import Coffer.Text.Split

/-!
# Paths

A path is names with slashes between them. What each name does is told where paths are walked; here
is what the text of a path tells without the nodes it leads to.

The empty name and `.` stay in place. A path may hold any number of them, also at its end, and the
last name that is neither is the path's *own*. The folder that a path lies in is what precedes its
own name. A first `.` counts as a name like another.
-/

namespace Coffer.Path

/-- The longest path that the system takes, in bytes. -/
def lengthLimit : Nat := 4095

/-- The longest name that a node may have, in bytes. -/
def nameLimit : Nat := 255

/-- The length of the name that a new file goes by until it takes the place of another, in bytes. -/
def freshNameLength : Nat := 10

/-- The names of a path that the system takes. It takes none that is empty, none with a null
character and none that is too long. -/
def parts (path : String) : Except DiskFault (List String) :=
  if path.isEmpty then .error .notFound
  else if path.toList.contains '\x00' then .error .nullInPath
  else if lengthLimit < path.utf8ByteSize then .error .nameTooLong
  else .ok (Text.splitOn '/' path)

/-- The names of a path without those that stay in place; only a first `.` is kept. -/
def names (path : String) : List String :=
  match Text.splitOn '/' path with
  | [] => []
  | first :: rest =>
    let rest := rest.filter fun name => name ≠ "" ∧ name ≠ "."
    if first = "" then rest else first :: rest

/-- Drops what stays in place from the end of a path. The names are given from the last to the
first. -/
def trimEnd : (reversed : List String) → List String
  | [] => []
  | [first] => [first]
  | name :: above => if name = "" ∨ name = "." then trimEnd above else name :: above

/-- The path of the folder that a path lies in; empty if that is the working directory. -/
def folder (path : String) : String :=
  let above := (trimEnd (Text.splitOn '/' path).reverse).tail
  String.intercalate "/" (trimEnd above).reverse

/-- The names of the folder that a path lies in; none for the working directory itself. -/
def folderNames (path : String) : List String := names (folder path)

/-- The names of a path as they are written, up to the last that is not empty. -/
def writtenNames (path : String) : List String :=
  ((Text.splitOn '/' path).reverse.dropWhile fun name => name = "").reverse

/-- Does a path end in `.` or `..`, with slashes after it or not? -/
def endsInDots (path : String) : Bool :=
  (writtenNames path).getLast? = some "." || (writtenNames path).getLast? = some ".."

/-- Does a path end in a slash? -/
def endsInSlash (path : String) : Bool := path.toList.getLast? = some '/'

example : folder "a//./b/c/./" = "a//./b" := by cbv
example : folder "./a" = "." := by cbv
example : folderNames "a//./b/c/./" = ["a", "b"] := by cbv

end Coffer.Path
