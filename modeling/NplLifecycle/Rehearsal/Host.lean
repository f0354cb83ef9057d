import NplLifecycle.Host.Local

/-!
# Hosts of a rehearsal

A rehearsal runs with the host of a client on its own, or with a scripted one, whose roots and
settings are whatever the script sets.
-/

namespace NplLifecycle.Rehearsal

structure ScriptedHost where
  roots : List Root
  /-- The settings of scopes, or why they cannot be read; other scopes have the defaults. -/
  settings : List (Scope × Except String Settings)
  /-- The folders that the user will pick. -/
  picks : List Path
  /-- Why settings cannot be updated, if so. -/
  updateFailure : Option String

inductive Host where
  | scripted (host : ScriptedHost)
  | onDisk (host : LocalHost)

inductive HostEntry where
  | info (text : String)
  | error (text : String)
  | pick (label : String) (start : Path)
  | update (folder : Path) (key : SettingKey) (value : Json)

namespace ScriptedHost

def create (roots : List Root) : ScriptedHost := ⟨roots, [], [], none⟩

def setSettings (host : ScriptedHost) (scope : Scope) (settings : Except String Settings) :
    ScriptedHost :=
  { host with settings := Scope.assign scope settings host.settings }

end ScriptedHost

namespace Host

def roots : Host → List Root
  | .scripted host => host.roots
  | .onDisk host => host.roots

/-- The settings of a scope, or the outermost text that says why they cannot be read. -/
def settings (store : Files.Store) (environment : Environment) (scope : Scope) :
    Host → Except String Settings
  | .scripted host => (Scope.lookup? scope host.settings).getD (.ok {})
  | .onDisk host => (host.settings store environment scope).mapError LoadError.message

def queuePick (folder : Path) : Host → Host
  | .scripted host => .scripted { host with picks := host.picks ++ [folder] }
  | .onDisk host => .onDisk { host with picks := host.picks ++ [folder] }

def pick : Host → Option Path × Host
  | .scripted host => (host.picks.head?, .scripted { host with picks := host.picks.tail })
  | .onDisk host =>
    let (folder, host) := host.pick
    (folder, .onDisk host)

end Host

end NplLifecycle.Rehearsal
