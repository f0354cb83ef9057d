import NplLifecycle.Session.Exchange

/-!
# Stewards

A steward greets the server on each new connection, waits for the connection to end, and asks for
the next one while the error handler wants it and the configuration allows it.  How the first
greeting went is told to the start that waits for it; a later greeting that fails ends the
steward.
-/

namespace NplLifecycle.Session

/-- How long a server may take for its welcome, in milliseconds. -/
def greetingTimeout : Nat := 30000

def greetingMethod : String := "initialize"

def failGreeting (session : Session) (steward : Steward) (connection : ConnectionId)
    (failure : ClientError) : Session × List Effect :=
  let (session, effects) := (session.cancelReader connection).close
  let session := session.dropSteward steward.id
  if steward.announced then
    (session, .log (.error ("Language server handshake failed after reconnect: " ++
      failure.message)) :: effects)
  else
    ({ session with ready := session.ready ++ [(steward.id, .error failure)] }, effects)

def attach (session : Session) (steward : Steward) (connection : ConnectionId) :
    Session × List Effect :=
  ({ session with writer := some connection, alive := true }.setSteward
      { steward with stage := .attached connection },
    (session.writer.map Effect.hangUp).toList)

/-- Starts the reader of a connection; the session's other reader is told to end. -/
def listen (session : Session) (steward : Steward) (connection : ConnectionId) :
    Session × List Effect :=
  let session := match session.reader with
    | some previous => session.cancelReader previous
    | none => session
  let reader : Reader := ⟨connection, [], 0, false, none⟩
  ({ session with
      readers := session.readers ++ [reader]
      reader := some connection }.setSteward { steward with stage := .listening connection }, [])

def greet (around : Surroundings) (session : Session) (steward : Steward)
    (connection : ConnectionId) : Session × List Effect :=
  match session.profile.handshake with
  | .error error => session.failGreeting steward connection (.handshake error.message)
  | .ok params =>
    match session.request around greetingMethod params with
    | (session, .error failure) => session.failGreeting steward connection failure
    | (session, .ok (id, effect)) =>
      (session.setSteward { steward with
          stage := .greeting connection id (around.now + greetingTimeout) }, [effect])

def welcomeOf (answer : Except ClientError Response) : Except ClientError Welcome :=
  match answer.bind resultOf with
  | .error (.server code text) =>
    .error (.handshake (text ++ " (code " ++ Number.integerText code ++ ")"))
  | .error failure => .error failure
  | .ok value =>
    (Welcome.ofJson? value).elim (.error (.protocol "the welcome has another shape")) .ok

def concludeGreeting (around : Surroundings) (session : Session) (steward : Steward)
    (connection : ConnectionId) (answer : Except ClientError Response) :
    Session × List Effect :=
  let confirmed := (welcomeOf answer).bind fun welcome =>
    (session.notify around "initialized" (.obj [])).map fun effect => (welcome, effect)
  match confirmed with
  | .error failure => session.failGreeting steward connection failure
  | .ok (welcome, effect) =>
    let session := session.setSteward
      { steward with stage := .serving connection, announced := true }
    if steward.announced then
      (session, [effect, .log (.info "Reconnected to language server")])
    else
      ({ session with ready := session.ready ++ [(steward.id, .ok welcome)] }, [effect])

/-- Asks for the next connection after a loss, if the configuration allows it. -/
def reconnect (session : Session) (steward : Steward) : Session × List Effect :=
  let limit := session.configuration.maxRestarts
  let attempt := steward.restarts + 1
  if limit ≤ steward.restarts then
    (session.dropSteward steward.id,
      [.log (.error ("Language server connection closed " ++ toString attempt ++
        " times, not restarting"))])
  else
    (session.setSteward { steward with stage := .reconnecting, restarts := attempt },
      [.log (.info ("Reconnecting to language server (attempt " ++ toString attempt ++ "/" ++
          toString limit ++ ")")),
        .connect (.steward steward.id)])

def concludeServing (session : Session) (steward : Steward) (exit : ReaderExit) :
    Session × List Effect :=
  let (session, effects) := session.close
  (session.setSteward { steward with stage := .bereft exit }, effects)

def concludeLoss (around : Surroundings) (session : Session) (steward : Steward)
    (exit : ReaderExit) : Session × List Effect :=
  if session.stopping then (session.dropSteward steward.id, [])
  else
    match exit with
    | .aborted =>
      (session.dropSteward steward.id,
        [.log (.warn "Language client session aborted by error handler")])
    | .closed =>
      let decision := around.decide .closed
      let consultation := Effect.consult .closed decision
      match decision with
      | .abort => (session.dropSteward steward.id, [consultation])
      | .proceed =>
        let (session, effects) := session.reconnect steward
        (session, consultation :: effects)

/-- Advances a steward; nothing while what it waits for has not happened. -/
def stepSteward (around : Surroundings) (id : StewardId) (session : Session) :
    Option (Session × List Effect) :=
  (session.steward? id).bind fun steward =>
    match steward.stage with
    | .connected connection => some (session.attach steward connection)
    | .attached connection => some (session.listen steward connection)
    | .listening connection => some (session.greet around steward connection)
    | .greeting connection request deadline =>
      (session.poll around greetingMethod request deadline greetingTimeout).map
        fun (session, answer) => session.concludeGreeting around steward connection answer
    | .serving connection =>
      ((session.reader? connection).bind Reader.exit).map (session.concludeServing steward)
    | .bereft exit => some (session.concludeLoss around steward exit)
    | .reconnecting => none

/-- Gives a steward the connection that it asked for, or ends it if there is none. -/
def supplySteward (session : Session) (id : StewardId) (connection : Option ConnectionId) :
    Session :=
  match session.steward? id, connection with
  | some steward, some connection =>
    session.setSteward { steward with stage := .connected connection }
  | _, _ => session.dropSteward id

end NplLifecycle.Session
