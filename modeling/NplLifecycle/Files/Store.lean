import NplLifecycle.Path.Basic

/-!
# A store of files

The files that settings are read from and written to, with the working directory that relative
paths start from.  A store lists files and directories by the components of their absolute paths;
the directories on the way to an entry exist with it.

A path is followed piece by piece.  Only a directory leads anywhere, so a slash or a `.` behind
the name of a file leads nowhere; and neither a name nor a path may be too long, and no path
holds the byte zero.
-/

namespace NplLifecycle.Files

inductive Node where
  | file (content : List UInt8)
  | directory
  deriving DecidableEq, Repr

/-- The components of an absolute path without `.` and `..`. -/
abbrev Location := List (List UInt8)

structure Store where
  workingDirectory : Path
  entries : List (Location × Node)
  deriving Repr

def nameLimit : Nat := 255

def pathLimit : Nat := 4095

def isUsable (path : Path) : Bool :=
  path.bytes ≠ [] && path.bytes.length ≤ pathLimit && ! path.bytes.contains 0

namespace Store

def empty (workingDirectory : Path) : Store :=
  ⟨workingDirectory, []⟩

def at? (store : Store) (location : Location) : Option Node :=
  match store.entries.lookup location with
  | some node => some node
  | none =>
    if location = [] ∨ store.entries.any fun entry => location.isPrefixOf entry.1 then
      some .directory
    else none

/-- Where one piece of a path leads from a location; `none` unless a directory is there. -/
def step? (store : Store) (here : Location) (piece : List UInt8) : Option Location :=
  if store.at? here ≠ some .directory then none
  else if ! Path.isComponent piece then some here
  else if piece = [46, 46] then some here.dropLast
  else if nameLimit < piece.length then none
  else some (here ++ [piece])

/-- Where paths of a kind start. -/
def startOf (store : Store) (path : Path) : Location :=
  if path.isAbsolute then [] else store.workingDirectory.components

/-- Where a path leads, whether or not something is there. -/
def locate? (store : Store) (path : Path) : Option Location :=
  if isUsable path then (Path.pieces path.bytes).foldlM store.step? (store.startOf path) else none

def node? (store : Store) (path : Path) : Option Node :=
  (store.locate? path).bind store.at?

def exists? (store : Store) (path : Path) : Bool :=
  (store.node? path).isSome

def read? (store : Store) (path : Path) : Option (List UInt8) :=
  match store.node? path with
  | some (.file content) => some content
  | _ => none

def isDirectory (store : Store) (path : Path) : Bool :=
  store.node? path = some .directory

def put (store : Store) (location : Location) (node : Node) : Store :=
  { store with entries := (location, node) :: store.entries.filter (·.1 ≠ location) }

/-- Makes the directories that lead along components, as far as they are missing and nothing is
in the way; tells also whether the last one is there. -/
def makeAlong (store : Store) (here : Location) : List (List UInt8) → Store × Bool
  | [] => (store, store.at? here = some .directory)
  | name :: rest =>
    match store.step? here name with
    | none => (store, false)
    | some next =>
      let store := if store.at? next = none then store.put next .directory else store
      makeAlong store next rest

/-- Makes a directory and those above it; tells also whether the directory is there then. -/
def makeDirectory (store : Store) (path : Path) : Store × Bool :=
  if isUsable path then store.makeAlong (store.startOf path) path.components
  else (store, path.bytes = [])

/-- Writes a file; `none` if its directory is missing or a directory has its name. -/
def write? (store : Store) (path : Path) (content : List UInt8) : Option Store :=
  (store.locate? path).bind fun location =>
    if store.at? location = some .directory ∨ store.at? location.dropLast ≠ some .directory then
      none
    else some (store.put location (.file content))

/-- Makes a file or a directory with the directories above it, as far as nothing is in the way. -/
def provide (store : Store) (path : Path) : Node → Store
  | .directory => (store.makeDirectory path).1
  | .file content =>
    let store := (store.makeDirectory path.parent).1
    (store.write? path content).getD store

/-- Removes a file; a directory stays. -/
def remove (store : Store) (path : Path) : Store :=
  match store.locate? path, store.read? path with
  | some location, some _ => { store with entries := store.entries.filter (·.1 ≠ location) }
  | _, _ => store

/-- The absolute path of an existing entry without `.` and `..`. -/
def canonical? (store : Store) (path : Path) : Option Path :=
  (store.locate? path).bind fun location =>
    (store.at? location).map fun _ => ⟨Path.extend [Path.slash] location⟩

end Store

end NplLifecycle.Files
