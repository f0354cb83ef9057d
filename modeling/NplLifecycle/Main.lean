import NplLifecycle.CommandLine.Run

/-!
# The program

Reads the command line, the few variables and files that matter and the standard input, runs the
client on them, and writes back what it printed and the files that it changed.
-/

namespace NplLifecycle.CommandLine

def variableNames : List String :=
  ["HOME", "XDG_CONFIG_HOME", "XDG_DATA_HOME"] ++ SettingKey.all.map fun key =>
    "NPL_" ++ "__".intercalate (key.segments.map String.toUpper)

def loadFile (store : Files.Store) (path : Path) : IO Files.Store := do
  try
    let content ← IO.FS.readBinFile path.display
    return store.put path.components (.file content.toList)
  catch _ => return store

/-- Puts a root under its canonical path into a store, with its settings file. -/
def loadRoot (store : Files.Store) (root : Path) : IO (Files.Store × Option Path) := do
  try
    let canonical := Path.ofString (← IO.FS.realPath root.display).toString
    let store := store.put canonical.components .directory
    return (← loadFile store (Settings.folderFile canonical), some canonical)
  catch _ => return (store, none)

/-- Writes the files of a store that differ from those of another one. -/
def saveChanges (before after : Files.Store) : IO Unit :=
  after.entries.reverse.forM fun (location, node) => do
    if before.entries.lookup location ≠ some node then
      let path : Path := ⟨Path.extend [Path.slash] location⟩
      match node with
      | .directory => IO.FS.createDirAll path.display
      | .file content => IO.FS.writeBinFile path.display ⟨content.toArray⟩

end NplLifecycle.CommandLine

open NplLifecycle NplLifecycle.CommandLine in
def main (arguments : List String) : IO UInt32 := do
  match Invocation.ofArguments? arguments with
  | none =>
    IO.eprintln "usage: npl-client [OPTIONS] [serve | resolve | set KEY VALUE]"
    return 2
  | some invocation =>
    let known ← variableNames.filterMapM fun name => do
      return (← IO.getEnv name).map fun value => (Text.encode name, Text.encode value)
    let directory := Path.ofString (← IO.currentDir).toString
    let written := if invocation.roots.isEmpty then [Path.ofString "."] else invocation.roots
    let mut store := (Files.Store.empty directory).put directory.components .directory
    let mut roots := []
    for root in written do
      let (next, canonical) ← loadRoot store root
      store := next
      roots := roots ++ [canonical.getD root]
    for file in (invocation.userFile.orElse fun _ => defaultUserFile? known).toList do
      store ← loadFile store (Path.absoluteOrSame directory file)
    let input ← match invocation.task with
      | .serve => (← IO.getStdin).readToEnd
      | .resolve | .set .. => pure ""
    let report := run ⟨store, known, "mockls"⟩ { invocation with roots } (Text.encode input)
    saveChanges store report.store
    IO.print report.output
    match report.error with
    | none => return 0
    | some text =>
      IO.eprintln ("Error: " ++ text)
      return 1
