import NplLifecycle.Frame.Basic
import NplLifecycle.Json.Document
import NplLifecycle.Json.Printer
import NplLifecycle.Message.Basic
import NplLifecycle.Path.Basic

/-!
# The practice server

A small language server to try a client against.  It grants the handshake and the shutdown,
refuses everything else, and can be told to misbehave.  It reads frames like a client, with less
patience: a header without a usable length, or a body that is no text, blocks it for good.
-/

namespace NplLifecycle.Practice

structure Options where
  /-- Refuses the handshake. -/
  failInitialize : Bool := false
  /-- Exits as soon as the client is ready. -/
  exitAfterInitialized : Bool := false
  /-- Sends a frame that is no message once the client is ready. -/
  malformed : Bool := false
  /-- Asks for the workspace folders once the client is ready. -/
  requestFolders : Bool := false
  /-- Where the messages that arrive are recorded. -/
  record : Option Path := none
  deriving DecidableEq, Repr, Inhabited

structure Incoming where
  id : Option Json
  method : Option String
  params : Json
  result : Option Json
  deriving DecidableEq, Inhabited

inductive Front where
  /-- Nothing that the server can read, perhaps not yet. -/
  | waiting
  /-- A length that no address can reach. -/
  | overflow
  | frame (body : String) (rest : List UInt8)
  deriving DecidableEq, Repr

/-- The length in a header: that of the first line that gives a usable one. -/
def announcedLength? (header : List UInt8) : Option Nat :=
  (Text.decode? header).bind fun text =>
    (Text.lines text.toList).findSome? fun line =>
      (Frame.lengthField? line).bind (Number.readUnsigned? Frame.lengthBound)

def front (buffer : List UInt8) : Front :=
  match Frame.splitHeader? buffer with
  | none => .waiting
  | some (header, rest) =>
    match announcedLength? header with
    | none => .waiting
    | some length =>
      if Nat.pow 2 64 ≤ header.length + 4 + length then .overflow
      else if rest.length < length then .waiting
      else
        match Text.decode? (rest.take length) with
        | none => .waiting
        | some body => .frame body (rest.drop length)

/-- What is behind a frame is shorter than the buffer. -/
theorem front_length {buffer rest : List UInt8} {body : String}
    (h : front buffer = .frame body rest) : rest.length < buffer.length := by
  unfold front at h
  split at h
  · simp at h
  · rename_i header after hsplit
    have hbuffer := congrArg List.length (Frame.splitHeader?_eq_some hsplit)
    simp only [List.length_append, List.length_cons] at hbuffer
    split at h
    · simp at h
    · split at h
      · simp at h
      · split at h
        · simp at h
        · split at h
          · simp at h
          · simp only [Front.frame.injEq] at h
            rw [← h.2, List.length_drop]
            omega

/-- How deep the value of a field may be nested: the message itself is one level. -/
def fieldLimit : Nat := Json.nestingLimit - 1

def optional? {α : Type} (read : Json.Document → Option α) :
    Option Json.Document → Option (Option α)
  | none | some .null => some none
  | some document => (read document).map some

/-- Reads a message from an object or from the list of its fields. -/
def Incoming.ofDocument? (document : Json.Document) : Option Incoming :=
  (document.fields? [["id"], ["method"], ["params"], ["result"]]).bind fun fields =>
    match fields with
    | [id, method, params, result] =>
      (optional? (Json.Document.value? fieldLimit) id).bind fun id =>
      (optional? Json.Document.text? method).bind fun method =>
      ((params.getD .null).value? fieldLimit).bind fun params =>
      (optional? (Json.Document.value? fieldLimit) result).map fun result =>
        ⟨id, method, params, result⟩
    | _ => none

def Incoming.ofText? (body : String) : Option Incoming :=
  (Json.Document.ofChars? body.toList).bind ofDocument?

def Incoming.toJson (incoming : Incoming) : Json :=
  .obj ((incoming.id.map fun id => ("id", id)).toList ++
    (incoming.method.map fun method => ("method", Json.str method)).toList ++
    [("params", incoming.params)] ++
    (incoming.result.map fun result => ("result", result)).toList)

def welcome : Json :=
  .obj [("capabilities", .obj [("textDocumentSync", .int 1),
      ("workspace", .obj [("workspaceFolders", .obj [("supported", .bool true)])])]),
    ("serverInfo", .obj [("name", .str "mockls"), ("version", .str "0.0.0")])]

def internalError : Int := -32603

def granted (id result : Json) : Json :=
  .obj [("jsonrpc", .str protocolVersion), ("id", id), ("result", result)]

def refused (id : Json) (code : Int) (text : String) : Json :=
  .obj [("jsonrpc", .str protocolVersion), ("id", id),
    ("error", .obj [("code", .int code), ("message", .str text)])]

def respond (options : Options) (id : Json) (method : String) : Json :=
  if method = "initialize" then
    if options.failInitialize then
      refused id internalError "mockls: configured to fail on initialize"
    else granted id welcome
  else if method = "shutdown" then granted id .null
  else refused id methodNotFound ("mockls: method not found: " ++ method)

def folderRequest : Json :=
  .obj [("jsonrpc", .str protocolVersion), ("id", .str "mockls-folders"),
    ("method", .str "workspace/workspaceFolders")]

def bodies (options : Options) (incoming : Incoming) : List String :=
  match incoming.id, incoming.method with
  | some id, some method => [(respond options id method).compact]
  | none, some "initialized" =>
    (if options.malformed then ["\x7bnot json"] else []) ++
      (if options.requestFolders then [folderRequest.compact] else [])
  | _, _ => []

def exitsAfter (options : Options) (incoming : Incoming) : Bool :=
  match incoming.id, incoming.method with
  | none, some method =>
    method == "exit" || (method == "initialized" && options.exitAfterInitialized)
  | _, _ => false

inductive Status where
  | running
  | exited
  | crashed
  deriving DecidableEq, Repr

structure Server where
  options : Options
  /-- The bytes that were not read yet. -/
  buffer : List UInt8
  status : Status
  /-- The bodies sent so far. -/
  sent : List String
  /-- The messages that arrived so far. -/
  seen : List Incoming

def Server.create (options : Options) : Server :=
  ⟨options, [], .running, [], []⟩

def Server.handle (server : Server) (incoming : Incoming) : Server :=
  { server with
    sent := server.sent ++ bodies server.options incoming
    seen := server.seen ++ [incoming]
    status := if exitsAfter server.options incoming then .exited else server.status }

/-- Handles the body of a frame; one that is no message is passed over. -/
def Server.handleBody (server : Server) (body : String) : Server :=
  (Incoming.ofText? body).elim server server.handle

/-- Handles the frames in a buffer until the server exits or can read no further. -/
def Server.drain (server : Server) (buffer : List UInt8) : Server :=
  match _h : front buffer with
  | .waiting => { server with buffer := buffer }
  | .overflow => { server with buffer := buffer, status := .crashed }
  | .frame body rest =>
    let next := server.handleBody body
    if next.status = .running then next.drain rest else { next with buffer := rest }
termination_by buffer.length
decreasing_by exact front_length _h

/-- Gives a server bytes; one that no longer runs takes none. -/
def Server.feed (server : Server) (bytes : List UInt8) : Server :=
  if server.status = .running then server.drain (server.buffer ++ bytes) else server

def Server.output (server : Server) : List UInt8 :=
  server.sent.flatMap Frame.encode

def Server.record (server : Server) : List String :=
  server.seen.map fun incoming => incoming.toJson.compact

end NplLifecycle.Practice
