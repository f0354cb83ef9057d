import NplLifecycle.Settings.Edit
import NplLifecycle.Settings.Change
import NplLifecycle.Workspace.Root
import NplLifecycle.Log

/-!
# A host without an editor

The host of a client that runs on its own.  It keeps a snapshot of the settings of every scope:
the whole workspace and each root.  A reload reads all scopes again; if one of them cannot be read,
nothing changes, and otherwise the keys that changed anywhere are announced together.
-/

namespace NplLifecycle

open Files (Store)

abbrev Scope := Option Path

namespace Scope

def agrees : Scope → Scope → Bool
  | none, none => true
  | some a, some b => a.agrees b
  | _, _ => false

def lookup? {α : Type} (scope : Scope) (entries : List (Scope × α)) : Option α :=
  (entries.find? fun entry => scope.agrees entry.1).map Prod.snd

/-- Keeps a value under a scope, in the place of the one there. -/
def assign {α : Type} (scope : Scope) (value : α) (entries : List (Scope × α)) :
    List (Scope × α) :=
  (scope, value) :: entries.filter fun entry => ! scope.agrees entry.1

end Scope

/-- The host of a client that runs on its own. -/
structure LocalHost where
  roots : List Root
  userFile : Option Path
  /-- The settings of a scope as they were read last. -/
  snapshots : List (Scope × Settings)
  /-- The folders that the user will pick. -/
  picks : List Path
  deriving Repr

namespace LocalHost

/-- How many changes a listener may have unread. -/
def channelCapacity : Nat := 64

def scopes (host : LocalHost) : List Scope :=
  none :: host.roots.map fun root => some root.path

def remember (host : LocalHost) (scope : Scope) (settings : Settings) : LocalHost :=
  { host with snapshots := Scope.assign scope settings host.snapshots }

def read (store : Store) (environment : Environment) (host : LocalHost) (scope : Scope) :
    Except LoadError Settings :=
  Settings.load store environment host.userFile scope

/-- Reads a scope for a new host; one that cannot be read is only noted in the log. -/
def readQuietly (store : Store) (environment : Environment)
    (state : LocalHost × List LogLine) (scope : Scope) : LocalHost × List LogLine :=
  match state.1.read store environment scope with
  | .ok settings => (state.1.remember scope settings, state.2)
  | .error error =>
    (state.1, state.2 ++ [.warn ("Failed to load NPL settings: " ++ error.message)])

def create (store : Store) (environment : Environment) (directories : List Path)
    (userFile : Option Path) : LocalHost × List LogLine :=
  let roots := directories.zipIdx.map fun (directory, index) => Root.ofDirectory directory index
  let host : LocalHost := ⟨roots, userFile, [], []⟩
  host.scopes.foldl (readQuietly store environment) (host, [])

/-- The settings of a scope: the snapshot, or what is in the files if there is none. -/
def settings (store : Store) (environment : Environment) (host : LocalHost) (scope : Scope) :
    Except LoadError Settings :=
  match Scope.lookup? scope host.snapshots with
  | some settings => .ok settings
  | none => host.read store environment scope

/-- Takes over a fresh reading of a scope, and notes the keys that changed. -/
def refresh (state : LocalHost × List SettingKey) (reading : Scope × Settings) :
    LocalHost × List SettingKey :=
  let (host, changed) := state
  let (scope, fresh) := reading
  let previous := (Scope.lookup? scope host.snapshots).getD {}
  let added := (Settings.changedKeys previous fresh).filter fun key => ! changed.contains key
  (host.remember scope fresh, changed ++ added)

/-- Reads all scopes again; gives the keys that changed. -/
def reload (store : Store) (environment : Environment) (host : LocalHost) :
    Except LoadError (LocalHost × List SettingKey) :=
  (host.scopes.mapM fun scope =>
    (host.read store environment scope).map fun settings => (scope, settings)).map
    fun readings => readings.foldl refresh (host, [])

def changedLine (changed : List SettingKey) : LogLine :=
  .info ("Settings changed: " ++ ", ".intercalate (changed.map SettingKey.name))

def announcement? (changed : List SettingKey) : Option SettingsChange :=
  if changed.isEmpty then none else some (.ofSettings changed)

inductive UpdateError where
  | edit (error : EditError)
  | load (error : LoadError)
  deriving DecidableEq, Repr

def UpdateError.message : UpdateError → String
  | .edit error => error.message
  | .load error => error.message

/-- Stores a setting in a folder's file and reloads; the file stays as it was written even if the
reload fails. -/
def update (store : Store) (environment : Environment) (host : LocalHost) (folder : Path)
    (key : SettingKey) (value : Json) :
    Store × Except UpdateError (LocalHost × List SettingKey) :=
  match Settings.write store folder key value with
  | (store, .error error) => (store, .error (.edit error))
  | (store, .ok ()) => (store, (host.reload store environment).mapError .load)

def pick (host : LocalHost) : Option Path × LocalHost :=
  (host.picks.head?, { host with picks := host.picks.tail })

end LocalHost

end NplLifecycle
