import NplLifecycle.Settings.Tree
import NplLifecycle.Settings.Basic
import NplLifecycle.Files.Store

/-!
# Loading settings

The settings of a scope are the default under the user's file, under the folder's file, under the
environment.  Names in the environment start with `NPL_` in any case; the rest in lower case, with
a dot for every `__`, names the setting.  A layer that cannot be read fails the build; a merged
value that does not fit its setting fails the reading.
-/

namespace NplLifecycle

open Files (Store)

inductive LoadError where
  | build
  | read
  deriving DecidableEq, Repr

def LoadError.message : LoadError → String
  | .build => "Failed to build NPL settings"
  | .read => "Failed to deserialize NPL settings"

/-- The environment: names with their values. -/
abbrev Environment := List (List UInt8 × List UInt8)

namespace Settings

namespace Tree

def text? : Tree → Option String
  | .text s => some s
  | _ => none

/-- A scalar as text, or nothing. -/
def optionalText? : Tree → Option (Option String)
  | .nothing => some none
  | tree => tree.asText?.map some

def libraries? : Tree → Option (Option (List String))
  | .nothing => some none
  | .text s => some (some [s])
  | .list items => (items.mapM text?).map some
  | _ => none

def field? (names : List String) (position : Nat) : Tree → Option (Option Tree)
  | .table members =>
    match members.filter fun member => names.contains member.1 with
    | [] => some none
    | [(_, value)] => some (some value)
    | _ => none
  | .list items => some items[position]?
  | _ => none

def fieldOr {α : Type} (default : α) (names : List String) (position : Nat)
    (read : Tree → Option α) (tree : Tree) : Option α :=
  (tree.field? names position).bind fun field =>
    match field with
    | none => some default
    | some value => read value

def debounce? : Tree → Option Nat :=
  fieldOr defaultDebounceMs ["debouncing"] 0 <|
    fieldOr defaultDebounceMs ["time"] 0 <|
      fieldOr defaultDebounceMs ["ms"] 0 asCount?

end Tree

def ofTree? (tree : Tree) : Option Settings :=
  (tree.fieldOr none ["sources"] 0 Tree.optionalText?).bind fun sources =>
  (tree.fieldOr none ["testSources", "testsources"] 1 Tree.optionalText?).bind fun testSources =>
  (tree.fieldOr none ["contribLibraries", "contriblibraries"] 2 Tree.libraries?).bind
    fun libraries =>
  (tree.fieldOr none ["frontendSources", "frontendsources"] 3 Tree.optionalText?).bind
    fun frontend =>
  (tree.fieldOr defaultDebounceMs ["server"] 4 Tree.debounce?).map fun debounce =>
    ⟨sources, testSources, libraries, frontend, debounce⟩

def folderDirectory (folder : Path) : Path :=
  folder.entry ".npl"

def folderFile (folder : Path) : Path :=
  (folderDirectory folder).entry "settings.json"

/-- The layer in a JSON text: its members, ordered by name.  A byte order mark in front is
skipped. -/
def layerOfBytes? (bytes : List UInt8) : Option (List (String × Tree)) :=
  let content := match bytes with
    | 0xEF :: 0xBB :: 0xBF :: rest => rest
    | other => other
  match Json.parse? (Text.decodeLossy content) with
  | some (.obj members) => some (Tree.ofMembers members)
  | _ => none

/-- The file that is read where a settings file's path is that of a directory: the one beside it
with the extension `json`.  An extension that the path already has is kept; where the path goes on
behind its name, what is added to keep it becomes a name. -/
def fileBeside (path : Path) : Path :=
  match path.extension? with
  | none => path.withExtension "json"
  | some _ => (Path.mk (path.bytes ++ Text.encode ".dummy")).withExtension "json"

def layerOfFile? (store : Store) (path : Path) : Option (List (String × Tree)) :=
  match store.read? path with
  | some bytes =>
    if path.extension? = some (Text.encode "json") then layerOfBytes? bytes else none
  | none =>
    (store.read? (fileBeside (Path.seenFrom store.workingDirectory path))).bind layerOfBytes?

/-- A settings file's layer; a file that does not exist has none. -/
def optionalLayer? (store : Store) (path : Option Path) : Option (List (String × Tree)) :=
  match path with
  | none => some []
  | some path => if store.exists? path then layerOfFile? store path else some []

def variableKey? (name : List UInt8) : Option String :=
  (Text.decode? name).bind fun text =>
    let lower := text.toList.map Text.lowerAscii
    if "npl_".toList.isPrefixOf lower then
      some (".".intercalate ((String.ofList (lower.drop 4)).splitOn "__"))
    else none

/-- The layer of the environment, ordered by name; a value that is not UTF-8 fails it. -/
def environmentLayer? (environment : Environment) : Option (List (String × Tree)) :=
  let named := environment.filterMap fun (name, value) =>
    (variableKey? name).map fun key => (key, Text.decode? value)
  let ordered := named.mergeSort fun a b => a.1 ≤ b.1
  ordered.mapM fun (key, value) => value.map fun text => (key, Tree.text text)

def defaultLayer : List (String × Tree) :=
  [(SettingKey.debounceMs.name, .int defaultDebounceMs)]

def load (store : Store) (environment : Environment) (userFile folder : Option Path) :
    Except LoadError Settings :=
  match optionalLayer? store userFile, optionalLayer? store (folder.map folderFile),
    environmentLayer? environment with
  | some user, some folder, some environment =>
    let merged := [defaultLayer, user, folder, environment].foldl Tree.setAll (.table [])
    (ofTree? merged).elim (.error .read) .ok
  | _, _, _ => .error .build

end Settings

end NplLifecycle
