import NplLifecycle.Client.Error
import NplLifecycle.Client.Handler
import NplLifecycle.Client.Handshake

/-!
# Sessions

A session is one client's dealings with its server, over one connection after the other.  Three
kinds of tasks share it: a call of the client's owner (start or stop), a steward that keeps the
session connected, and one reader for each connection.  A task is advanced step by step, and only
by its owner; what a step asks of the world it says as an effect.
-/

namespace NplLifecycle

abbrev ConnectionId := Nat

abbrev StewardId := Nat

namespace Session

inductive ReaderExit where
  /-- The stream ended or failed. -/
  | closed
  /-- The error handler wanted the session to end. -/
  | aborted
  deriving DecidableEq, Repr

structure Reader where
  connection : ConnectionId
  /-- The bytes that are no whole frame yet. -/
  buffer : List UInt8
  /-- How many faults the connection had. -/
  faults : Nat
  /-- Was it told from outside to end? -/
  isCancelled : Bool
  exit : Option ReaderExit
  deriving Repr

inductive Stage where
  /-- Holds a connection that nobody uses yet. -/
  | connected (connection : ConnectionId)
  /-- The session sends on the connection, and nobody reads from it yet. -/
  | attached (connection : ConnectionId)
  /-- Somebody reads from the connection, and the server was not greeted yet. -/
  | listening (connection : ConnectionId)
  /-- Waits for the server's welcome. -/
  | greeting (connection : ConnectionId) (request : RequestId) (deadline : Nat)
  /-- Waits for the end of the connection. -/
  | serving (connection : ConnectionId)
  /-- The connection has ended; what to do about that is open. -/
  | bereft (exit : ReaderExit)
  /-- Waits for a new connection. -/
  | reconnecting
  deriving DecidableEq, Repr

structure Steward where
  id : StewardId
  stage : Stage
  /-- How often it reconnected. -/
  restarts : Nat
  /-- Has the start been told how it went? -/
  announced : Bool
  deriving DecidableEq, Repr

inductive Call where
  | idle
  /-- A start waits for a connection. -/
  | connecting
  /-- A start waits for the welcome. -/
  | starting (steward : StewardId)
  /-- A stop waits for the server to agree. -/
  | stopping (request : RequestId) (deadline : Nat)
  deriving DecidableEq, Repr

inductive Asker where
  | start
  | steward (id : StewardId)
  deriving DecidableEq, Repr

inductive Task where
  | call
  | steward (id : StewardId)
  | reader (connection : ConnectionId)
  deriving DecidableEq, Repr

inductive Arrival where
  | bytes (chunk : List UInt8)
  | finish
  | failure (cause : String)
  deriving DecidableEq, Repr

inductive Effect where
  /-- A connection is asked for. -/
  | connect (asker : Asker)
  /-- A message goes out on a connection. -/
  | write (connection : ConnectionId) (message : Message)
  /-- The client's side of a connection is given up. -/
  | hangUp (connection : ConnectionId)
  /-- What had arrived on a connection was taken. -/
  | take (connection : ConnectionId)
  /-- The error handler was asked, and decided. -/
  | consult (event : ConnectionEvent) (decision : Decision)
  | log (line : LogLine)
  /-- A start is over. -/
  | started (result : Except ClientError Welcome)
  /-- A stop is over. -/
  | stopped (result : Except ClientError Unit)

structure Surroundings where
  /-- The time in milliseconds. -/
  now : Nat
  /-- Why a connection takes no more bytes, if so. -/
  writeFault : ConnectionId → Option String
  /-- What can be read from a connection, if anything. -/
  arrival : ConnectionId → Option Arrival
  /-- What the error handler decides now. -/
  decide : ConnectionEvent → Decision

end Session

open Session in
structure Session where
  profile : ClientProfile
  /-- The number of the next request. -/
  nextRequest : Nat
  /-- The connection that messages go out on. -/
  writer : Option ConnectionId
  alive : Bool
  /-- Has a stop begun?  It stays so. -/
  stopping : Bool
  /-- The requests without an answer. -/
  pending : List RequestId
  /-- What became of requests that nobody has asked after yet: a response, or nothing because
  the connection was closed. -/
  settled : List (RequestId × Option Response)
  readers : List Reader
  /-- The reader that a stop ends. -/
  reader : Option ConnectionId
  stewards : List Steward
  /-- The steward that a stop ends. -/
  steward : Option StewardId
  nextSteward : StewardId
  /-- How starts went that nobody has asked after yet. -/
  ready : List (StewardId × Except ClientError Welcome)
  /-- The server's last welcome. -/
  welcome : Option Welcome
  call : Call

namespace Session

def fresh (profile : ClientProfile) : Session where
  profile := profile
  nextRequest := 1
  writer := none
  alive := false
  stopping := false
  pending := []
  settled := []
  readers := []
  reader := none
  stewards := []
  steward := none
  nextSteward := 0
  ready := []
  welcome := none
  call := .idle

def configuration (session : Session) : ClientConfiguration :=
  session.profile.configuration

/-- The working directory, against which relative roots are made absolute. -/
def workingDirectory (session : Session) : Path :=
  session.profile.workingDirectory

def reader? (session : Session) (connection : ConnectionId) : Option Reader :=
  session.readers.find? (·.connection = connection)

def steward? (session : Session) (id : StewardId) : Option Steward :=
  session.stewards.find? (·.id = id)

/-- Puts a reader in the place of the one of the same connection. -/
def setReader (session : Session) (reader : Reader) : Session :=
  { session with readers := session.readers.map fun other =>
      if other.connection = reader.connection then reader else other }

/-- Puts a steward in the place of the one of the same number. -/
def setSteward (session : Session) (steward : Steward) : Session :=
  { session with stewards := session.stewards.map fun other =>
      if other.id = steward.id then steward else other }

def dropSteward (session : Session) (id : StewardId) : Session :=
  { session with stewards := session.stewards.filter (·.id ≠ id) }

/-- Tells the reader of a connection to end, which it does at its next turn. -/
def cancelReader (session : Session) (connection : ConnectionId) : Session :=
  { session with readers := session.readers.map fun reader =>
      if reader.connection = connection then { reader with isCancelled := true } else reader }

/-- Marks the connection dead, gives up the writer, and drops every request that has no answer. -/
def close (session : Session) : Session × List Effect :=
  ({ session with
      alive := false
      writer := none
      pending := []
      settled := session.settled ++ session.pending.map fun id => (id, none) },
    (session.writer.map Effect.hangUp).toList)

/-- Ends the steward and the reader that belong to the client's last start. -/
def abandonTasks (session : Session) : Session :=
  let session := match session.steward with
    | some id => session.dropSteward id
    | none => session
  let session := match session.reader with
    | some connection => session.cancelReader connection
    | none => session
  { session with steward := none, reader := none }

/-- What becomes of a session whose owner forgets it: nobody works on it any more. -/
def abandon (session : Session) : Session × List Effect :=
  session.abandonTasks.close

end Session

end NplLifecycle
