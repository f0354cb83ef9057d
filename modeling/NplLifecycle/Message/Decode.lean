import NplLifecycle.Message.Basic
import NplLifecycle.Json.Document

/-!
# Reading messages

Which kind of message a body is, is decided by presence alone: a `method` makes it a request or a
notification, an `id` other than `null` makes it a request or a response.  Only then are the
fields read, so a body with a malformed field is a malformed message of the kind so decided and
never one of another kind.
-/

namespace NplLifecycle

inductive DecodeError where
  | notJson
  | malformedRequest
  | malformedNotification
  | malformedResponse
  | unknownFormat (body : String)
  deriving DecidableEq, Repr

def DecodeError.message : DecodeError → String
  | .notJson => "Failed to parse JSON"
  | .malformedRequest => "Malformed request"
  | .malformedNotification => "Malformed notification"
  | .malformedResponse => "Malformed response"
  | .unknownFormat body => "Unknown message format: " ++ body

/-- Reads a field that may be absent; `null` is absence too. -/
def optionalField? {α : Type} (read : Json → Option α) : Option Json → Option (Option α)
  | none | some .null => some none
  | some value => (read value).map some

namespace Refusal

/-- Reads a refusal from an object or from the list of its three fields. -/
def ofJson? : Json → Option Refusal
  | .obj members =>
    ((members.lookup "code").bind Json.int64?).bind fun code =>
    ((members.lookup "message").bind Json.str?).bind fun message =>
    (optionalField? some (members.lookup "data")).map fun data => ⟨code, message, data⟩
  | .arr [code, message, data] =>
    code.int64?.bind fun code =>
    message.str?.bind fun message =>
    (optionalField? some (some data)).map fun data => ⟨code, message, data⟩
  | _ => none

end Refusal

namespace Request

/-- Reads a request from an object or from the list of its fields; absent parameters are
`null`. -/
def ofJson? : Json → Option Request
  | .obj members =>
    ((members.lookup "jsonrpc").bind Json.str?).bind fun version =>
    ((members.lookup "id").bind RequestId.ofJson?).bind fun id =>
    ((members.lookup "method").bind Json.str?).map fun method =>
      ⟨version, id, method, .ofOption (members.lookup "params")⟩
  | .arr (version :: id :: method :: params) =>
    version.str?.bind fun version =>
    (RequestId.ofJson? id).bind fun id =>
    method.str?.bind fun method =>
    if 1 < params.length then none else some ⟨version, id, method, .ofOption params.head?⟩
  | _ => none

end Request

namespace Notification

/-- Reads a notification from an object or from the list of its fields; absent parameters are
`null`. -/
def ofJson? : Json → Option Notification
  | .obj members =>
    ((members.lookup "jsonrpc").bind Json.str?).bind fun version =>
    ((members.lookup "method").bind Json.str?).map fun method =>
      ⟨version, method, .ofOption (members.lookup "params")⟩
  | .arr (version :: method :: params) =>
    version.str?.bind fun version =>
    method.str?.bind fun method =>
    if 1 < params.length then none else some ⟨version, method, .ofOption params.head?⟩
  | _ => none

end Notification

namespace Response

/-- Reads a response from an object or from the list of its four fields. -/
def ofJson? : Json → Option Response
  | .obj members =>
    ((members.lookup "jsonrpc").bind Json.str?).bind fun version =>
    (optionalField? RequestId.ofJson? (members.lookup "id")).bind fun id =>
    (optionalField? some (members.lookup "result")).bind fun result =>
    (optionalField? Refusal.ofJson? (members.lookup "error")).map fun refusal =>
      ⟨version, id, result, refusal⟩
  | .arr [version, id, result, refusal] =>
    version.str?.bind fun version =>
    (optionalField? RequestId.ofJson? (some id)).bind fun id =>
    (optionalField? some (some result)).bind fun result =>
    (optionalField? Refusal.ofJson? (some refusal)).map fun refusal =>
      ⟨version, id, result, refusal⟩
  | _ => none

end Response

namespace Message

/-- Classifies a value by the presence of `method` and of an `id` other than `null`, and reads
it; `body` is the text that is reported if it has neither. -/
def ofJson (body : String) (value : Json) : Except DecodeError Message :=
  let hasMethod := (value.get? "method").isSome
  let hasId := (value.get? "id").any (· ≠ .null)
  match hasMethod, hasId with
  | true, true => (Request.ofJson? value).elim (.error .malformedRequest) (.ok ∘ .request)
  | true, false =>
    (Notification.ofJson? value).elim (.error .malformedNotification) (.ok ∘ .notification)
  | false, true => (Response.ofJson? value).elim (.error .malformedResponse) (.ok ∘ .response)
  | false, false => .error (.unknownFormat body)

def decode (body : String) : Except DecodeError Message :=
  match Json.parse? body with
  | none => .error .notJson
  | some value => ofJson body value

end Message

end NplLifecycle
