import NplLifecycle.CommandLine.Arguments
import NplLifecycle.Number.Decimal
import NplLifecycle.Path.Basic

/-!
# The command line of the client

The client is told what to do by a subcommand, and everything else by options, which may stand in
front of the subcommand and behind it; what stands behind it counts.
-/

namespace NplLifecycle.CommandLine

inductive Task where
  /-- Run the client, and read commands from the input. -/
  | serve
  /-- Print what the server would be told. -/
  | resolve
  /-- Store a setting. -/
  | set (key value : String)
  deriving DecidableEq, Repr

structure Invocation where
  task : Task
  userFile : Option Path
  /-- The roots as they were written; none means the working directory. -/
  roots : List Path
  storage : Option Path
  /-- The command line of the server. -/
  server : Option String
  settleMs : Nat
  deriving Repr

def clientShapes : List Shape :=
  [⟨"config", none, true⟩, ⟨"root", some 'r', true⟩, ⟨"storage", none, true⟩,
    ⟨"server", some 's', true⟩, ⟨"settle-delay-ms", none, true⟩]

/-- The pause before a restart if nothing else is said, in milliseconds. -/
def defaultSettleMs : Nat := 500

structure Side where
  config : Option String
  roots : List String
  storage : Option String
  server : Option String
  settleMs : Option Nat

def side? (items : List Item) : Option Side :=
  let roots := valuesOf "root" items
  ((valueOf? "config" items).bind nonEmpty?).bind fun config =>
  ((valueOf? "storage" items).bind nonEmpty?).bind fun storage =>
  (valueOf? "server" items).bind fun server =>
  (valueOf? "settle-delay-ms" items).bind fun settle =>
  if roots.contains "" then none
  else
    match settle with
    | none => some ⟨config, roots, storage, server, none⟩
    | some text =>
      (Number.readUnsigned? (Nat.pow 2 64) text.toList).map fun time =>
        ⟨config, roots, storage, server, some time⟩

def task? (name : String) (words : List String) : Option Task :=
  match name, words with
  | "serve", [] => some .serve
  | "resolve", [] => some .resolve
  | "set", [key, value] => some (.set key value)
  | _, _ => none

/-- Cuts items at the first word, which is the subcommand. -/
def cutAtWord : List Item → List Item × Option (String × List Item)
  | [] => ([], none)
  | .word text :: rest => ([], some (text, rest))
  | item :: rest =>
    let (front, found) := cutAtWord rest
    (item :: front, found)

def Invocation.ofSides (task : Task) (before after : Side) : Invocation where
  task := task
  userFile := (after.config.orElse fun _ => before.config).map .ofString
  roots := (if after.roots.isEmpty then before.roots else after.roots).map .ofString
  storage := (after.storage.orElse fun _ => before.storage).map .ofString
  server := after.server.orElse fun _ => before.server
  settleMs := (after.settleMs.orElse fun _ => before.settleMs).getD defaultSettleMs

/-- Reads the command line of the client; `none` if it is none. -/
def Invocation.ofArguments? (arguments : List String) : Option Invocation :=
  (items? clientShapes arguments).bind fun items =>
    let (front, found) := cutAtWord items
    if ! (wordsOf front).isEmpty then none
    else
      (side? front).bind fun before =>
        match found with
        | none => some (.ofSides .serve before ⟨none, [], none, none, none⟩)
        | some (name, behind) =>
          (task? name (wordsOf behind)).bind fun task =>
            (side? behind).map (.ofSides task before)

end NplLifecycle.CommandLine
