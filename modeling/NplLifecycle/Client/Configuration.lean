import NplLifecycle.Workspace.Root
import NplLifecycle.Uri.Address

/-!
# Client configurations

What one client was started with: its roots, the debounce interval and the libraries that the
server is told, the documents it is responsible for, and how often it may reconnect.  A
configuration never changes; a change of the settings makes a new one at the next start.
-/

namespace NplLifecycle

structure DocumentSelector where
  scheme : String
  language : String
  deriving DecidableEq, Repr, Inhabited

namespace DocumentSelector

def nplFiles : DocumentSelector := ⟨"file", "npl"⟩

def covers (selector : DocumentSelector) (address : Uri.Address) (language : String) : Bool :=
  address.scheme == selector.scheme && language == selector.language

end DocumentSelector

inductive FolderError where
  | invalidPath (root : Root)
  | invalidUri (uri : String) (index : Nat)
  deriving DecidableEq, Repr

def FolderError.message : FolderError → String
  | .invalidPath root => root.invalidPathMessage
  | .invalidUri uri index =>
    "Invalid root URI " ++ uri ++ ": unexpected character at index " ++ toString index

structure ClientConfiguration where
  roots : List Root
  debounceMs : Nat
  contribLibraries : Option (List String)
  selector : DocumentSelector := .nplFiles
  maxRestarts : Nat := 3
  deriving DecidableEq, Repr, Inhabited

namespace ClientConfiguration

/-- How often a client may reconnect if nothing else is said. -/
def defaultMaxRestarts : Nat := 3

def describe (configuration : ClientConfiguration) : String :=
  ", ".intercalate (configuration.roots.map Root.describe)

def effectiveFolder (workingDirectory : Path) (root : Root) :
    Except FolderError (String × String) :=
  match root.uri? workingDirectory with
  | none => .error (.invalidPath root)
  | some uri => .ok (uri, root.name)

/-- A root's identifier and label, where the identifier must be strict. -/
def workspaceFolder (workingDirectory : Path) (root : Root) :
    Except FolderError (String × String) :=
  (effectiveFolder workingDirectory root).bind fun (uri, name) =>
    match Uri.fault? uri.toList with
    | some index => .error (.invalidUri uri index)
    | none => .ok (uri, name)

def workspaceFolders (workingDirectory : Path) (configuration : ClientConfiguration) :
    Except FolderError (List (String × String)) :=
  configuration.roots.mapM (workspaceFolder workingDirectory)

def effectiveFolders (workingDirectory : Path) (configuration : ClientConfiguration) :
    Except FolderError (List (String × String)) :=
  configuration.roots.mapM (effectiveFolder workingDirectory)

def foldersJson (folders : List (String × String)) : Json :=
  .arr (folders.map fun (uri, name) => .obj [("name", .str name), ("uri", .str uri)])

def initializationOptions (workingDirectory : Path) (configuration : ClientConfiguration) :
    Except FolderError Json :=
  (effectiveFolders workingDirectory configuration).map fun folders =>
    .obj ([("effectiveWorkspaceFolders", foldersJson folders)] ++
      (configuration.contribLibraries.map fun libraries =>
        ("nplContribLibraries", Json.ofStrings libraries)).toList ++
      [("nplServerDebouncingTimeMs", .int configuration.debounceMs)])

end ClientConfiguration

end NplLifecycle
