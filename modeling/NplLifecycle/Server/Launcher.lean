import NplLifecycle.Log
import NplLifecycle.Path.Basic

/-!
# Launchers

A launcher runs the language server as a process of its own.  It keeps at most one process:
whoever asks for a connection replaces the process of the connection before.  A process that
cannot be used is killed as soon as it is given up.
-/

namespace NplLifecycle

abbrev ProcessId := Nat

structure Launcher where
  program : String
  arguments : List String
  /-- The process that is running. -/
  child : Option ProcessId
  nextProcess : ProcessId
  deriving DecidableEq, Repr

inductive Launcher.Pipe where
  | input
  | output
  deriving DecidableEq, Repr

def Launcher.Pipe.name : Pipe → String
  | .input => "stdin"
  | .output => "stdout"

inductive Launcher.Spawn where
  /-- There is no such program, or it may not be run. -/
  | failed
  /-- The process runs, but nobody can talk to it. -/
  | unreachable (missing : Pipe)
  | running
  deriving DecidableEq, Repr

inductive Launcher.ConnectError where
  | spawn (program : String)
  | noPipe (missing : Pipe)
  deriving DecidableEq, Repr

def Launcher.ConnectError.message : ConnectError → String
  | .spawn program => "Failed to spawn language server: " ++ program
  | .noPipe missing => "Language server " ++ missing.name ++ " not captured"

def Launcher.emptyCommandMessage : String := "Empty language server command"

inductive Launcher.Effect where
  | log (line : LogLine)
  | spawn (process : ProcessId)
  | kill (process : ProcessId)
  deriving DecidableEq, Repr

namespace Launcher

def create (program : String) (arguments : List String) : Launcher :=
  ⟨program, arguments, none, 0⟩

/-- The launcher of a command line, unless that is empty. -/
def ofCommand? : List String → Option Launcher
  | [] => none
  | program :: arguments => some (create program arguments)

def stop (launcher : Launcher) : Launcher × List Effect :=
  ({ launcher with child := none }, (launcher.child.map Effect.kill).toList)

def spawnLine (launcher : Launcher) : LogLine :=
  .info ("Spawning language server: " ++ launcher.program ++ " " ++
    " ".intercalate launcher.arguments)

/-- Runs a new process in the place of the one before; gives the process to talk to. -/
def connect (launcher : Launcher) (spawn : Spawn) :
    Launcher × List Effect × Except ConnectError ProcessId :=
  let (launcher, effects) := launcher.stop
  let effects := effects ++ [.log launcher.spawnLine]
  let id := launcher.nextProcess
  match spawn with
  | .failed => (launcher, effects, .error (.spawn launcher.program))
  | .unreachable missing =>
    ({ launcher with nextProcess := id + 1 }, effects ++ [.spawn id, .kill id],
      .error (.noPipe missing))
  | .running =>
    ({ launcher with child := some id, nextProcess := id + 1 }, effects ++ [.spawn id], .ok id)

/-- Gives up the launcher, and with it the process that is running. -/
def drop (launcher : Launcher) : List Effect :=
  launcher.stop.2

end Launcher

end NplLifecycle
