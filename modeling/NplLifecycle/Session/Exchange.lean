import NplLifecycle.Session.Basic
import NplLifecycle.Text.Quoted

/-!
# Requests and responses

Every request of a session has a number of its own, over all of its connections.  A request waits
until a response with its number arrives, until its time is up, or until the connection is closed;
whichever comes first settles it, and a later response to it is one to an unknown request.
Requests of the server are answered at once, on the connection that is open then.
-/

namespace NplLifecycle

def RequestId.describe : RequestId → String
  | .number n => "Number(" ++ Number.integerText n ++ ")"
  | .text s => "String(" ++ Text.quoted s ++ ")"

namespace Session

/-- Sends a message; nothing changes but the connection. -/
def send (around : Surroundings) (session : Session) (message : Message) :
    Except ClientError Effect :=
  match session.writer with
  | none => .error .connectionClosed
  | some connection =>
    match around.writeFault connection with
    | some cause => .error (.transport cause)
    | none => .ok (.write connection message)

def notify (around : Surroundings) (session : Session) (method : String) (params : Json) :
    Except ClientError Effect :=
  session.send around (.notification (.ofClient method params))

def request (around : Surroundings) (session : Session) (method : String) (params : Json) :
    Session × Except ClientError (RequestId × Effect) :=
  let id := RequestId.number session.nextRequest
  let session := { session with nextRequest := session.nextRequest + 1 }
  match session.send around (.request (.ofClient id method params)) with
  | .error failure => (session, .error failure)
  | .ok effect => ({ session with pending := session.pending ++ [id] }, .ok (id, effect))

/-- Asks after a request: nothing while it waits, else what settled it. -/
def poll (around : Surroundings) (session : Session) (method : String) (id : RequestId)
    (deadline timeout : Nat) : Option (Session × Except ClientError Response) :=
  let settledBy := { session with settled := session.settled.filter (·.1 ≠ id) }
  match session.settled.lookup id with
  | some (some response) => some (settledBy, .ok response)
  | some none => some (settledBy, .error .connectionClosed)
  | none =>
    if deadline ≤ around.now then
      some ({ session with pending := session.pending.filter (· ≠ id) },
        .error (.requestTimeout method (timeout * 1000)))
    else none

/-- The result in a response; a missing one is `null`. -/
def resultOf (response : Response) : Except ClientError Json :=
  match response.refusal with
  | some refusal => .error (.server refusal.code refusal.message)
  | none => .ok (response.result.getD .null)

def itemCount (params : Json) : Nat :=
  (((params.get? "items").bind Json.items?).map List.length).getD 0

/-- The methods of the server that are granted without further ado. -/
def grantedMethods : List String :=
  ["client/registerCapability", "client/unregisterCapability", "window/workDoneProgress/create"]

/-- The response to a request of the server, and what the log says about it. -/
def reply (session : Session) (request : Request) : Response × List LogLine :=
  if request.method = "workspace/workspaceFolders" then
    match session.configuration.workspaceFolders session.workingDirectory with
    | .ok folders => (.grant request.id (ClientConfiguration.foldersJson folders), [])
    | .error error =>
      (.grant request.id .null, [.warn ("Cannot report workspace folders: " ++ error.message)])
  else if request.method = "workspace/configuration" then
    (.grant request.id (.arr (List.replicate (itemCount request.params) .null)), [])
  else if grantedMethods.contains request.method then
    (.grant request.id .null, [])
  else
    (.refuse request.id methodNotFound
      ("Method '" ++ request.method ++ "' not supported by client"), [])

/-- Handles a response: it settles the request of its identifier, if that waits. -/
def handleResponse (session : Session) (response : Response) : Session × List Effect :=
  match response.id with
  | none => (session, [.log (.warn "Received response without id")])
  | some id =>
    if session.pending.contains id then
      ({ session with
          pending := session.pending.filter (· ≠ id)
          settled := session.settled ++ [(id, some response)] }, [])
    else
      (session, [.log (.warn ("Received response for unknown request id: " ++ id.describe))])

def handleRequest (around : Surroundings) (session : Session) (request : Request) :
    List Effect :=
  let (response, lines) := session.reply request
  lines.map Effect.log ++
    match session.send around (.response response) with
    | .ok effect => [effect]
    | .error failure =>
      [.log (.warn ("Failed to answer " ++ request.method ++ ": " ++ failure.message))]

def dispatch (around : Surroundings) (session : Session) : Message → Session × List Effect
  | .response response => session.handleResponse response
  | .request request => (session, session.handleRequest around request)
  | .notification _ => (session, [])

end Session

end NplLifecycle
