import NplLifecycle.Json.Basic

/-!
# Messages

Client and server exchange requests, responses and notifications.  Each is an object with fixed
fields, which a message also accepts as a list in the order of the fields.  An identifier is an
integer of 64 bits or a string, and the two kinds are never the same identifier.
-/

namespace NplLifecycle

inductive RequestId where
  | number (n : Int)
  | text (s : String)
  deriving DecidableEq, Repr, Inhabited

structure Request where
  version : String
  id : RequestId
  method : String
  params : Json
  deriving DecidableEq, Inhabited

structure Notification where
  version : String
  method : String
  params : Json
  deriving DecidableEq, Inhabited

structure Refusal where
  code : Int
  message : String
  data : Option Json
  deriving DecidableEq, Inhabited

structure Response where
  version : String
  id : Option RequestId
  result : Option Json
  refusal : Option Refusal
  deriving DecidableEq, Inhabited

inductive Message where
  | request (content : Request)
  | response (content : Response)
  | notification (content : Notification)
  deriving DecidableEq, Inhabited

def protocolVersion : String := "2.0"

def methodNotFound : Int := -32601

namespace RequestId

def toJson : RequestId → Json
  | .number n => .int n
  | .text s => .str s

def ofJson? (value : Json) : Option RequestId :=
  match value.int64?, value.str? with
  | some n, _ => some (.number n)
  | none, some s => some (.text s)
  | none, none => none

end RequestId

namespace Request

/-- The request as an object, its fields in their order. -/
def toJson (request : Request) : Json :=
  .obj [("jsonrpc", .str request.version), ("id", request.id.toJson),
    ("method", .str request.method), ("params", request.params)]

def ofClient (id : RequestId) (method : String) (params : Json) : Request :=
  ⟨protocolVersion, id, method, params⟩

end Request

namespace Notification

/-- The notification as an object, its fields in their order. -/
def toJson (notification : Notification) : Json :=
  .obj [("jsonrpc", .str notification.version), ("method", .str notification.method),
    ("params", notification.params)]

def ofClient (method : String) (params : Json) : Notification :=
  ⟨protocolVersion, method, params⟩

end Notification

namespace Refusal

/-- The refusal as an object, its fields in their order; absent data are left out. -/
def toJson (refusal : Refusal) : Json :=
  .obj ([("code", .int refusal.code), ("message", .str refusal.message)] ++
    (refusal.data.map fun data => ("data", data)).toList)

end Refusal

namespace Response

/-- The response as an object, its fields in their order; an absent result and an absent refusal
are left out, an absent identifier is `null`. -/
def toJson (response : Response) : Json :=
  .obj ([("jsonrpc", .str response.version),
      ("id", .ofOption (response.id.map RequestId.toJson))] ++
    (response.result.map fun result => ("result", result)).toList ++
    (response.refusal.map fun refusal => ("error", refusal.toJson)).toList)

def grant (id : RequestId) (result : Json) : Response :=
  ⟨protocolVersion, some id, some result, none⟩

def refuse (id : RequestId) (code : Int) (message : String) : Response :=
  ⟨protocolVersion, some id, none, some ⟨code, message, none⟩⟩

end Response

def Message.toJson : Message → Json
  | .request r => r.toJson
  | .response r => r.toJson
  | .notification n => n.toJson

end NplLifecycle
