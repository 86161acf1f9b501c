import Coffer.CommandLine.Run

/-!
# The program

What of the surroundings a run needs is fetched before it, and what it changed is put in place after
it. Between the two the run is a function.

A run touches one file. So it is given a disk that holds this file and the folders above it, as they
are found, and it leaves one that may hold new folders and a new content of the file.
-/

namespace Coffer.Program

open CommandLine

/-- The variables that the program looks at. -/
def variableNames : List String :=
  ["QUIVER_PATH", "QUIVER_IGNORE_CASE", "QUIVER_ENCODING", "QUIVER_SERIALIZE_ON_UPDATE",
    "QUIVER_UPDATE_EVENTS", "QUIVER_ENCRYPTION_KEY", "QUIVER_STRICT_DECRYPTION"]

/-- The variables that are set. -/
def fetchEnvironment : IO Config.Environment :=
  variableNames.filterMapM fun name => do
    let value ← IO.getEnv name
    return value.map fun v => (name, Text.Utf8.encode v)

/-- The file that the arguments and the environment choose. -/
def chosenPath? (args : List String) (env : Config.Environment) : Option String :=
  match parse args with
  | .error _ => none
  | .ok i => (configOf i.options env).toOption.bind Config.filePath

/-- The paths of the folders above a path, the uppermost first, each with its names. -/
def foldersAbove (path : String) : List (String × List String) :=
  let root := if path.startsWith "/" then "/" else ""
  let names := Path.folderNames path
  (List.range names.length).map fun n =>
    let part := names.take (n + 1)
    (root ++ String.intercalate "/" part, part)

/-- What stands at a path. What cannot be read because it is no file is a folder, and under a path
that the system does not take stands nothing. -/
def fetchNode (path : String) : IO (Option Node) := do
  try
    let content ← IO.FS.readBinFile path
    return some (.file content.data.toList)
  catch
    | .noFileOrDirectory .. | .invalidArgument .. => return none
    | .inappropriateType .. => return some .folder
    | e => throw e

/-- The disk as far as a path goes. -/
def fetchDisk (path : String) : IO Disk := do
  let mut disk : Disk := { root := (← IO.currentDir).toString.utf8ByteSize }
  for (folder, names) in foldersAbove path ++ [(path, Path.names path)] do
    match ← fetchNode folder, disk.walk [] names with
    | some node, .ok place => disk := disk.put place node
    | _, _ => pure ()
  return disk

/-- Puts in place what a run changed at a path. -/
def store (path : String) (before after : Disk) : IO Unit := do
  for (folder, names) in foldersAbove path do
    if after.isFolder names && !before.isFolder names then IO.FS.createDirAll folder
  match after.read path with
  | .error _ => pure ()
  | .ok content =>
    if (before.read path).toOption ≠ some content then
      let fresh := path ++ ".new"
      IO.FS.writeBinFile fresh ⟨content.toArray⟩
      IO.FS.rename fresh path

end Coffer.Program

open Coffer CommandLine Program in
/-- Runs the program on its arguments. -/
def main (args : List String) : IO UInt32 := do
  let env ← fetchEnvironment
  let salt := (← IO.getRandomBytes 16).data.toList
  let path := chosenPath? args env
  let before ← match path with
    | some path => fetchDisk path
    | none => pure {}
  let (outcome, after) := run args { env, salt } before
  match path with
  | some path => store path before after
  | none => pure ()
  IO.print outcome.out
  IO.eprint outcome.err
  return UInt32.ofNat outcome.code
