import NplLifecycle.App.Call
import NplLifecycle.Lifecycle.Basic
import NplLifecycle.Rehearsal.Server
import NplLifecycle.Rehearsal.Host
import NplLifecycle.Server.Program

/-!
# The world of a rehearsal

Everything that takes part in a rehearsal: the clock, the host, the servers, the controllers and
the calls that are under way, and a journal of what happened since it was last read.
-/

namespace NplLifecycle.Rehearsal

inductive ManagerEntry where
  | connected (connection : ConnectionId)
  | refused
  | stopServer
  | selectVersion (client : String)
  | cleanServerFiles (client : String)

inductive HelperEntry where
  | login
  | instructions (root : Root)
  | migrationRoot (root : Root)
  | migration

structure Helper where
  /-- Why it fails, if it does. -/
  failure : Option String
  /-- Where it fails, if it does not fail everywhere. -/
  only : Option Path

/-- The helpers of an activation, as far as there are any. -/
structure Helpers where
  login : Option Helper
  instructions : Option Helper
  migration : Option Helper

inductive ManagerKind where
  /-- Nothing. -/
  | plain
  /-- Everything, unless a failure is given. -/
  | full (versionFailure cleanFailure : Option String)

inductive Supplier where
  /-- Each attempt uses the next script, the last one again and again. -/
  | scripts (scripts : List Script)
  /-- Each attempt runs a role, or fails with texts, the outermost first. -/
  | role (role : Except (List String) Role)

inductive Request where
  /-- A call of the application. -/
  | app (call : App.Call)
  /-- An errand of the controller under test. -/
  | control (errand : Controller.Errand)
  /-- To run a command that the application does not have. -/
  | unknown (command : String)
  /-- To start the client that has no controller. -/
  | startClient
  | stopClient
  /-- To let a server do something of its own accord. -/
  | act (connection : ConnectionId) (actions : List Action)
  | wait (time : Nat)

inductive Result where
  | done (result : Except App.Failure Unit)
  | configuration (configuration : Option ClientConfiguration)
  | welcome (result : Except ClientError Welcome)
  /-- The server did what it was to do; was its stream left open? -/
  | acted (isOpen : Bool)
  | noConnection

inductive CallStage where
  | fresh (request : Request)
  /-- Waits for a job of a controller. -/
  | working (controller : Nat) (job : JobId) (stage : Option App.Stage)
  /-- Has an answer to go on with. -/
  | answered (stage : App.Stage) (answer : App.Answer)
  | startingClient
  | stoppingClient
  | acting (connection : ConnectionId) (actions : List Action) (wake : Nat) (isOpen : Bool)
  | waiting (wake : Nat)
  | ended (result : Result)

structure Call where
  id : Nat
  /-- The number of a call in the background; nobody waits for it. -/
  task : Option Nat
  stage : CallStage

/-- A controller with its clients and the handler that they consult. -/
structure Station where
  lifecycle : Lifecycle
  handler : ErrorHandler

inductive Task where
  | server (connection : ConnectionId)
  | lifecycle (station : Nat) (task : Lifecycle.Task)
  | call (id : Nat)
  deriving DecidableEq, Repr

structure Journal where
  manager : List ManagerEntry := []
  /-- What error handlers were asked, by their stations, and what they decided. -/
  handler : List (Nat × ConnectionEvent × Decision) := []
  host : List HostEntry := []
  helpers : List HelperEntry := []
  received : List (ConnectionId × Json) := []
  logs : List LogLine := []
  /-- The calls in the background that ended. -/
  finished : List (Nat × Result) := []

structure World where
  /-- The time in milliseconds. -/
  now : Nat
  workingDirectory : Path
  processId : Nat
  context : ActivationContext
  host : Host
  store : Files.Store
  environment : Environment
  channelIsOpen : Bool
  /-- How many changes a listener may have unread. -/
  capacity : Nat
  supplier : Supplier
  /-- How many connections were asked for. -/
  attempts : Nat
  /-- Why no connection can be made, if so. -/
  connectFailure : Option String
  servers : List Server
  managerKind : ManagerKind
  helpers : Helpers
  /-- The application's own controller, and after it perhaps another one to test. -/
  stations : List Station
  calls : List Call
  nextCall : Nat
  /-- The number of the next call in the background. -/
  nextTask : Nat
  /-- How jobs of the controllers ended that calls wait for. -/
  outcomes : List ((Nat × JobId) × Controller.Outcome)
  /-- The tasks that were there when note was last taken of them. -/
  begun : List Task := []
  /-- The tasks that stand in line to run. -/
  ready : List Task := []
  /-- The moments that tasks wait for, in the order in which they began to wait. -/
  alarms : List (Task × Nat) := []
  /-- The listeners that wait for a change, by their stations, in the order in which they began
  to wait. -/
  waiters : List (Nat × ClientId) := []
  journal : Journal

namespace World

def server? (world : World) (connection : ConnectionId) : Option Server :=
  world.servers.find? (·.connection = connection)

def withServer (world : World) (connection : ConnectionId) (change : Server → Server) : World :=
  { world with servers := world.servers.map fun server =>
      if server.connection = connection then change server else server }

def note (world : World) (change : Journal → Journal) : World :=
  { world with journal := change world.journal }

def log (world : World) (line : LogLine) : World :=
  world.note fun journal => { journal with logs := journal.logs ++ [line] }

/-- Tells the user something: a host without a window writes it into the log. -/
def tellUser (world : World) (severity : Severity) (text : String) : World :=
  match world.host, severity with
  | .onDisk _, _ => world.log ⟨severity, text, true⟩
  | .scripted _, .error =>
    world.note fun journal => { journal with host := journal.host ++ [.error text] }
  | .scripted _, _ =>
    world.note fun journal => { journal with host := journal.host ++ [.info text] }

def noteManager (world : World) (entry : ManagerEntry) : World :=
  world.note fun journal => { journal with manager := journal.manager ++ [entry] }

def surroundings (world : World) (station : Station) : Lifecycle.Surroundings where
  situation := {
    now := world.now
    workingDirectory := world.workingDirectory
    roots := world.host.roots
    settings := fun scope => world.host.settings world.store world.environment scope }
  session := {
    now := world.now
    writeFault := fun connection =>
      (world.server? connection).elim (some "server gone") Server.writeFault
    arrival := fun connection => (world.server? connection).bind (·.outbox.head?)
    decide := station.handler.decide }
  processId := world.processId
  channelIsOpen := world.channelIsOpen

def setStation (world : World) (index : Nat) (station : Station) : World :=
  { world with stations := world.stations.set index station }

/-- The role for the next connection, or the texts that say why there is none. -/
def nextRole (world : World) : Except (List String) Role :=
  match world.connectFailure, world.supplier with
  | some cause, _ => .error [cause]
  | none, .role role => role
  | none, .scripts scripts =>
    let script := (scripts[world.attempts]?.orElse fun _ => scripts.getLast?).getD default
    match script.connectError with
    | some cause => .error [cause]
    | none => .ok (.scripted script)

def connect (world : World) : World × Except (List String) ConnectionId :=
  let role := world.nextRole
  let world := { world with attempts := world.attempts + 1 }
  match role with
  | .error causes => (world.noteManager .refused, .error causes)
  | .ok role =>
    let id := world.servers.length + 1
    let world := { world with servers := world.servers ++ [Server.create id role] }
    (world.noteManager (.connected id), .ok id)

/-- Lets an effect of a session happen, apart from the wish for a connection. -/
def applySession (world : World) (index : Nat) : Session.Effect → World
  | .write connection message =>
    world.withServer connection (·.receive (.message message.toJson))
  | .hangUp connection => world.withServer connection (·.receive .hangUp)
  | .take connection => world.withServer connection Server.taken
  | .consult event decision =>
    match world.stations[index]? with
    | none => world
    | some station =>
      let world := (station.handler.log event).foldl log world
      let world := world.setStation index { station with handler := station.handler.next event }
      world.note fun journal =>
        { journal with handler := journal.handler ++ [(index, event, decision)] }
  | .log line => world.log line
  | .connect _ | .started _ | .stopped _ => world

/-- Lets an effect of a lifecycle happen, apart from the wish for a connection. -/
def applyEffect (world : World) (index : Nat) : Lifecycle.Effect → World
  | .session _ effect => world.applySession index effect
  | .log line => world.log line
  | .control action =>
    match action with
    | .log line => world.log line
    | .showInfo text => world.tellUser .info text
    | .showError text => world.tellUser .error text
    | .stopServer => world.noteManager .stopServer
    | .finish job outcome =>
      { world with outcomes := world.outcomes ++ [((index, job), outcome)] }
    | _ => world

/-- Makes the connection that a session wishes for, and gives it to the session. -/
def grantConnection (world : World) (index : Nat) : Lifecycle.Effect → World
  | .session client (.connect asker) =>
    match world.stations[index]? with
    | none => world
    | some station =>
      let (world, result) := world.connect
      let (lifecycle, effects) := station.lifecycle.supply client asker result
      effects.foldl (applyEffect · index) (world.setStation index { station with lifecycle })
  | _ => world

def absorb (world : World) (index : Nat) (station : Station)
    (outcome : Lifecycle × List Lifecycle.Effect) : World :=
  let world := world.setStation index { station with lifecycle := outcome.1 }
  outcome.2.foldl (fun world effect =>
    (world.applyEffect index effect).grantConnection index effect) world

/-- Announces a change of the settings to all listeners; those that wait for one get in line. -/
def announce (world : World) (change : SettingsChange) : World :=
  let woken := world.waiters.map fun (index, client) => Task.lifecycle index (.listener client)
  { world with
    stations := world.stations.map fun station =>
      { station with lifecycle := station.lifecycle.announce world.capacity change }
    ready := world.ready ++ woken.filter (! world.ready.contains ·)
    waiters := [] }

def listenerCount (world : World) : Nat :=
  world.stations.foldl (fun count station => count + station.lifecycle.listeners.length) 0

def tested (world : World) : Nat :=
  world.stations.length - 1

def state (world : World) : LifecycleState :=
  (world.stations.getLast?.map fun station => station.lifecycle.controller.state).getD .idle

end World

end NplLifecycle.Rehearsal
