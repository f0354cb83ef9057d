import NplLifecycle.Client.Configuration
import NplLifecycle.Message.Decode

/-!
# The handshake

A session begins with one request of the client, which says who it is and which roots it serves,
and the server's welcome, which says what it can do.  Of a welcome only the members that a client
knows are kept.
-/

namespace NplLifecycle

structure ClientProfile where
  name : String
  version : Option String
  /-- The number of the client's process, by which a server notices that it is gone. -/
  processId : Nat
  workingDirectory : Path
  configuration : ClientConfiguration
  deriving Inhabited

structure Welcome where
  /-- How the server wants to be told about changes of a document. -/
  documentSync : Option Int
  /-- Does the server explain what the pointer rests on? -/
  hover : Option Bool
  /-- The server's name and version. -/
  server : Option (String × Option String)
  deriving DecidableEq, Repr, Inhabited

namespace ClientProfile

def identity (profile : ClientProfile) : Json :=
  .obj ([("name", .str profile.name)] ++
    (profile.version.map fun version => ("version", Json.str version)).toList)

def offer : Json :=
  .obj [("workspace", .obj [("configuration", .bool true), ("workspaceFolders", .bool true)])]

/-- The parameters of the handshake; the members are ordered by name. -/
def handshake (profile : ClientProfile) : Except FolderError Json :=
  (profile.configuration.workspaceFolders profile.workingDirectory).bind fun folders =>
  (profile.configuration.initializationOptions profile.workingDirectory).map fun options =>
    .obj [("capabilities", offer), ("clientInfo", profile.identity),
      ("initializationOptions", options), ("processId", .int profile.processId),
      ("rootUri", .null), ("workspaceFolders", ClientConfiguration.foldersJson folders)]

end ClientProfile

namespace Welcome

def int32? (value : Json) : Option Int :=
  value.int64?.filter fun n => -Int.pow 2 31 ≤ n ∧ n < Int.pow 2 31

def bool? : Json → Option Bool
  | .bool b => some b
  | _ => none

/-- Reads a server's name and version, from an object or from the list of the two. -/
def server? : Json → Option (String × Option String)
  | .obj members =>
    ((members.lookup "name").bind Json.str?).bind fun name =>
    (optionalField? Json.str? (members.lookup "version")).map fun version => (name, version)
  | .arr [name, version] =>
    name.str?.bind fun name =>
      (optionalField? Json.str? (some version)).map fun version => (name, version)
  | _ => none

def abilities? : Json → Option (Option Int × Option Bool)
  | .obj members =>
    (optionalField? int32? (members.lookup "textDocumentSync")).bind fun documentSync =>
    (optionalField? bool? (members.lookup "hoverProvider")).map fun hover => (documentSync, hover)
  | _ => none

/-- Reads a welcome, from an object or from the list of its two members. -/
def ofJson? (value : Json) : Option Welcome :=
  let read := fun (abilities : Json) (server : Option Json) =>
    (abilities? abilities).bind fun (documentSync, hover) =>
    (optionalField? server? server).map fun server => ⟨documentSync, hover, server⟩
  match value with
  | .obj members =>
    (members.lookup "capabilities").bind fun abilities =>
      read abilities (members.lookup "serverInfo")
  | .arr [abilities, server] => read abilities (some server)
  | _ => none

/-- The welcome as an object; absent members are left out. -/
def toJson (welcome : Welcome) : Json :=
  .obj ([("capabilities", .obj (
      (welcome.hover.map fun b => ("hoverProvider", Json.bool b)).toList ++
      (welcome.documentSync.map fun n => ("textDocumentSync", Json.int n)).toList))] ++
    (welcome.server.map fun (name, version) =>
      ("serverInfo", Json.obj ([("name", .str name)] ++
        (version.map fun version => ("version", Json.str version)).toList))).toList)

end Welcome

end NplLifecycle
