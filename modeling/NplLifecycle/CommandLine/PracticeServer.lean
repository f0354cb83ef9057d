import NplLifecycle.CommandLine.Arguments
import NplLifecycle.Server.Practice
import NplLifecycle.Files.Store

/-!
# The command line of the practice server

Every misbehaviour has a flag of its own; nothing else is on the command line but the file in
which the server records what it gets.
-/

namespace NplLifecycle.CommandLine

open Practice (Options)

def practiceShapes : List Shape :=
  [⟨"fail-initialize", none, false⟩, ⟨"exit-after-initialized", none, false⟩,
    ⟨"malformed", none, false⟩, ⟨"request-folders", none, false⟩, ⟨"record", none, true⟩]

/-- Reads the command line of the practice server; `none` if it is none. -/
def practiceOptions? (arguments : List String) : Option Options :=
  (items? practiceShapes arguments).bind fun items =>
    if ! (wordsOf items).isEmpty then none
    else
      (valueOf? "fail-initialize" items).bind fun failInitialize =>
      (valueOf? "exit-after-initialized" items).bind fun exitAfter =>
      (valueOf? "malformed" items).bind fun malformed =>
      (valueOf? "request-folders" items).bind fun requestFolders =>
      ((valueOf? "record" items).bind nonEmpty?).map fun record =>
        { failInitialize := failInitialize.isSome
          exitAfterInitialized := exitAfter.isSome
          malformed := malformed.isSome
          requestFolders := requestFolders.isSome
          record := record.map .ofString }

/-- Appends to a file what a practice server recorded; a file that cannot be written is left
alone. -/
def appendRecord (store : Files.Store) (server : Practice.Server) : Files.Store :=
  match server.options.record, server.record with
  | none, _ | _, [] => store
  | some file, lines =>
    let old := (store.read? file).getD []
    let new := lines.flatMap fun line => Text.encode (line ++ "\n")
    (store.write? file (old ++ new)).getD store

end NplLifecycle.CommandLine
