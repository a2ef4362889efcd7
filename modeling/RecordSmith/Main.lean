import RecordSmith.Command.Paths

/-! The program: takes the files that a run may look at from the disk, runs the command on
them, and puts what has changed back.
-/

namespace RecordSmith

/-- Bytes as the content of a file. -/
def contentOfBytes (bytes : ByteArray) : Content :=
  match String.fromUTF8? bytes with
  | some value => .text value
  | none => .binary bytes.toList

/-- What is at a path of the disk. What cannot be read as a file counts as a directory. -/
def diskNode? (path : String) : IO (Option Node) := do
  try
    return some (.file (contentOfBytes (← IO.FS.readBinFile path)))
  catch
    | .noFileOrDirectory .. => return none
    | _ => return some .directory

/-- Adds to a store what is on the way to a path of the disk, and what the path leads to. -/
def addDiskPath (base : Location) (store : Store) (path : String) : IO Store := do
  let mut location := Store.startOf base path
  let mut held := store
  for name in Store.namesOf path do
    location := Store.enter location name
    if let some node ← diskNode? (rootPath location) then
      held := held.insert location node
  return held

/-- Adds paths of the disk to a store. -/
def addDiskPaths (base : Location) (store : Store) (paths : List String) : IO Store :=
  paths.foldlM (addDiskPath base) store

/-- The environment variables of the process. -/
def processVariables : IO (List (String × String)) := do
  try
    let bytes ← IO.FS.readBinFile "/proc/self/environ"
    let text := (String.fromUTF8? bytes).getD ""
    return (text.splitOn "\x00").filterMap fun entry =>
      match entry.splitOn "=" with
      | name :: value :: rest => some (name, Text.join "=" (value :: rest))
      | _ => none
  catch _ => return []

/-- Where the process runs. -/
def processSurroundings : IO Surroundings := do
  let label := (← IO.currentDir).toString
  return {
    directory := steps label
    label
    environment := ← processVariables }

/-- The part of the disk that a command line may look at. -/
def diskStore (args : List String) (around : Surroundings) : IO Store := do
  let empty ← addDiskPath [] ⟨[]⟩ (rootPath around.directory)
  match Arguments.read args with
  | .invocation invocation =>
      let held ← addDiskPaths around.directory empty (invocation.settingsPaths around)
      match Settings.load held around invocation.config with
      | .error _ => return held
      | .ok settings =>
          addDiskPaths around.directory held (invocation.command.paths settings)
  | _ => return empty

/-- Writes the files that a run has changed to the disk. -/
def writeChanges (before after : Store) : IO Unit := do
  for (location, node) in after.nodes do
    if before.node? location ≠ some node then
      if let .file (.text value) := node then
        IO.FS.writeFile (rootPath location) value

end RecordSmith

open RecordSmith in
/-- Runs a command line and gives its exit code. -/
def main (args : List String) : IO UInt32 := do
  let around ← processSurroundings
  let store ← diskStore args around
  let outcome := execute args store around
  writeChanges store outcome.store
  IO.print outcome.stdout
  IO.eprint outcome.stderr
  return outcome.code.toUInt32
