import NplLifecycle.Session.Reader
import NplLifecycle.Session.Steward

/-!
# Calls on a session

What the client's owner can ask for.  A start asks for a connection, hands it to a new steward and
waits for the welcome.  A stop asks the server to shut down, if there is one, and then gives
everything up, whatever the server answered.  To open a document is to tell the server about it,
unless the client is not responsible for it.
-/

namespace NplLifecycle.Session

/-- How long a server may take to agree to a shutdown, in milliseconds. -/
def shutdownTimeout : Nat := 5000

def shutdownMethod : String := "shutdown"

def beginStart (session : Session) : Session × List Effect :=
  ({ session with call := .connecting }, [.connect .start])

def failStart (session : Session) (failure : ClientError) : Session × List Effect :=
  ({ session with call := .idle }, [.started (.error failure)])

/-- Gives a start the connection that it asked for, or why there is none. -/
def supplyStart (session : Session) : Except String ConnectionId → Session × List Effect
  | .error cause => session.failStart (.connection cause)
  | .ok connection =>
    let id := session.nextSteward
    ({ session with
        stewards := session.stewards ++ [⟨id, .connected connection, 0, false⟩]
        steward := some id
        nextSteward := id + 1
        call := .starting id }, [])

/-- Gives whoever asked for a connection the connection, or the texts that say why there is none,
the outermost first. -/
def supply (session : Session) (asker : Asker) (result : Except (List String) ConnectionId) :
    Session × List Effect :=
  let lines := match result with
    | .error causes => [Effect.log (.error ("Failed to start server: " ++ ": ".intercalate causes))]
    | .ok _ => []
  match asker with
  | .start =>
    let (session, effects) := session.supplyStart (result.mapError (·.headD ""))
    (session, lines ++ effects)
  | .steward id => (session.supplySteward id result.toOption, lines)

/-- Ends a stop: the tasks of the session are ended and its connection is closed. -/
def concludeStop (session : Session) (result : Except ClientError Unit) :
    Session × List Effect :=
  let (session, effects) := session.abandonTasks.close
  ({ session with call := .idle }, effects ++ [.stopped result])

def beginStop (around : Surroundings) (session : Session) : Session × List Effect :=
  let session := { session with stopping := true }
  if session.alive then
    match session.request around shutdownMethod .null with
    | (session, .error failure) => session.concludeStop (.error failure)
    | (session, .ok (id, effect)) =>
      ({ session with call := .stopping id (around.now + shutdownTimeout) }, [effect])
  else session.concludeStop (.ok ())

def concludeShutdown (around : Surroundings) (session : Session)
    (answer : Except ClientError Response) : Session × List Effect :=
  match (answer.bind resultOf).bind fun _ => session.notify around "exit" .null with
  | .error failure => session.concludeStop (.error failure)
  | .ok effect =>
    let (session, effects) := session.concludeStop (.ok ())
    (session, effect :: effects)

def concludeStart (session : Session) : Except ClientError Welcome → Session × List Effect
  | .ok welcome =>
    ({ session with welcome := some welcome, call := .idle }, [.started (.ok welcome)])
  | .error failure => session.abandonTasks.failStart failure

/-- Advances the owner's call; nothing while what it waits for has not happened. -/
def stepCall (around : Surroundings) (session : Session) : Option (Session × List Effect) :=
  match session.call with
  | .idle | .connecting => none
  | .starting id =>
    match session.ready.lookup id with
    | some result =>
      some ({ session with ready := session.ready.filter (·.1 ≠ id) }.concludeStart result)
    | none =>
      if (session.steward? id).isNone then some (session.concludeStart (.error .connectionClosed))
      else none
  | .stopping id deadline =>
    (session.poll around shutdownMethod id deadline shutdownTimeout).map
      fun (session, answer) => session.concludeShutdown around answer

/-- Opens a document on the server; `false` if the client is not responsible for it. -/
def openDocument (around : Surroundings) (session : Session) (address : Uri.Address)
    (language text : String) : Except ClientError (Bool × List Effect) :=
  if session.configuration.selector.covers address language then
    match Uri.fault? address.text.toList with
    | some index =>
      .error (.protocol ("Invalid document URI " ++ address.text ++
        ": unexpected character at index " ++ toString index))
    | none =>
      (session.notify around "textDocument/didOpen" (.obj [("textDocument", .obj
        [("languageId", .str language), ("text", .str text), ("uri", .str address.text),
          ("version", .int 1)])])).map fun effect => (true, [effect])
  else .ok (false, [])

def step (around : Surroundings) (session : Session) : Task → Option (Session × List Effect)
  | .call => session.stepCall around
  | .steward id => session.stepSteward around id
  | .reader connection => session.stepReader around connection

def tasks (session : Session) : List Task :=
  session.readers.map (.reader ·.connection) ++ session.stewards.map (.steward ·.id) ++ [.call]

/-- When the time of the request is up that a task waits for. -/
def deadline? (session : Session) : Task → Option Nat
  | .call =>
    match session.call with
    | .stopping _ deadline => some deadline
    | _ => none
  | .steward id =>
    (session.steward? id).bind fun steward =>
      match steward.stage with
      | .greeting _ _ deadline => some deadline
      | _ => none
  | .reader _ => none

end NplLifecycle.Session
