import NplLifecycle.Controller.Step
import NplLifecycle.Session.Call
import NplLifecycle.Settings.Change

/-!
# Lifecycles

A controller together with the sessions of the clients that it made and with the listeners that
wait for changes of the settings.  Every task of it can be advanced on its own; a scheduler that
advances them in any order is a run.
-/

namespace NplLifecycle

namespace Lifecycle

inductive Report where
  | started (result : Except ClientError Unit)
  | stopped (result : Except ClientError Unit)
  deriving Repr

inductive Task where
  /-- A job of the controller. -/
  | job (id : JobId)
  /-- A steward or a reader of a client's session. -/
  | session (client : ClientId) (task : Session.Task)
  | listener (client : ClientId)
  deriving DecidableEq, Repr

inductive Effect where
  | control (action : Controller.Action)
  | session (client : ClientId) (effect : Session.Effect)
  | log (line : LogLine)

structure Surroundings where
  situation : Controller.Situation
  session : Session.Surroundings
  /-- The number of the client's process. -/
  processId : Nat
  /-- Can changes still be announced? -/
  channelIsOpen : Bool

end Lifecycle

open Lifecycle in
structure Lifecycle where
  controller : Controller
  /-- The sessions of all clients that were ever made. -/
  sessions : List (ClientId × Session)
  listeners : List (ClientId × Inbox)
  /-- How starts and stops went that no job has looked at yet. -/
  reports : List (ClientId × Report)

namespace Lifecycle

def idle (options : Controller.Options) : Lifecycle :=
  ⟨.idle options, [], [], []⟩

/-- Puts a value under a number, in the place of the one there. -/
def assign {α : Type} (id : Nat) (value : α) (entries : List (Nat × α)) : List (Nat × α) :=
  entries.filter (·.1 ≠ id) ++ [(id, value)]

def profileOf (around : Surroundings) (client : Controller.Client)
    (context : ActivationContext) : ClientProfile where
  name := context.clientName
  version := some context.clientVersion
  processId := around.processId
  workingDirectory := around.situation.workingDirectory
  configuration := client.configuration

def reportOf? : Session.Effect → Option Report
  | .started result => some (.started (result.map fun _ => ()))
  | .stopped result => some (.stopped result)
  | _ => none

def absorb (lifecycle : Lifecycle) (client : ClientId)
    (outcome : Session × List Session.Effect) : Lifecycle × List Effect :=
  ({ lifecycle with
      sessions := assign client outcome.1 lifecycle.sessions
      reports := lifecycle.reports ++
        (outcome.2.filterMap reportOf?).map fun report => (client, report) },
    outcome.2.map (.session client))

def withSession (lifecycle : Lifecycle) (client : ClientId)
    (change : Session → Session × List Session.Effect) : Lifecycle × List Effect :=
  match lifecycle.sessions.lookup client with
  | some session => lifecycle.absorb client (change session)
  | none => (lifecycle, [])

def perform (around : Surroundings) (lifecycle : Lifecycle) (action : Controller.Action) :
    Lifecycle × List Effect :=
  let (lifecycle, effects) := match action with
    | .openClient client context =>
      lifecycle.absorb client.id
        (Session.fresh (profileOf around client context)).beginStart
    | .closeClient client => lifecycle.withSession client (·.beginStop around.session)
    | .dropClient client => lifecycle.withSession client (·.abandon)
    | .subscribe client =>
      ({ lifecycle with listeners := assign client .empty lifecycle.listeners }, [])
    | .unsubscribe client =>
      ({ lifecycle with listeners := lifecycle.listeners.filter (·.1 ≠ client) }, [])
    | _ => (lifecycle, [])
  (lifecycle, .control action :: effects)

def performAll (around : Surroundings) (lifecycle : Lifecycle) :
    List Controller.Action → Lifecycle × List Effect
  | [] => (lifecycle, [])
  | action :: rest =>
    let (lifecycle, effects) := lifecycle.perform around action
    let (lifecycle, more) := lifecycle.performAll around rest
    (lifecycle, effects ++ more)

def obey (around : Surroundings) (lifecycle : Lifecycle)
    (outcome : Controller × List Controller.Action) : Lifecycle × List Effect :=
  { lifecycle with controller := outcome.1 }.performAll around outcome.2

def stepJob (around : Surroundings) (lifecycle : Lifecycle) (id : JobId) :
    Option (Lifecycle × List Effect) :=
  let controller := lifecycle.controller
  match controller.awaited? id with
  | none => (controller.step around.situation id).map (lifecycle.obey around)
  | some client =>
    let read := { lifecycle with reports := lifecycle.reports.filter (·.1 ≠ client) }
    match lifecycle.reports.lookup client with
    | some (.stopped result) =>
      (controller.clientStopped around.situation id result).map (read.obey around)
    | some (.started result) => (controller.clientStarted id result).map (read.obey around)
    | none =>
      ((lifecycle.sessions.lookup client).bind (·.step around.session .call)).map
        (lifecycle.absorb client)

def missedLine (count : Nat) : LogLine :=
  .warn ("Missed " ++ toString count ++ " configuration changes, assuming sources changed")

def restartLine : LogLine :=
  .info "NPL workspace settings have changed. Restarting the language server..."

/-- Handles what a listener read: a relevant change, or one that was lost, begins a restart. -/
def react (lifecycle : Lifecycle) (reading : Inbox.Reading) : Lifecycle × List Effect :=
  let (change, effects) := match reading with
    | .change change => (change, [])
    | .missed count =>
      (SettingsChange.ofSettings Controller.restartKeys, [Effect.log (missedLine count)])
  if Controller.isRelevant change then
    let (controller, _) := lifecycle.controller.begin .settle
    ({ lifecycle with controller := controller }, effects ++ [.log restartLine])
  else (lifecycle, effects)

/-- Advances a listener: it reads, or ends if nothing can come any more. -/
def stepListener (around : Surroundings) (lifecycle : Lifecycle) (client : ClientId) :
    Option (Lifecycle × List Effect) :=
  (lifecycle.listeners.lookup client).bind fun inbox =>
    match inbox.next? with
    | some (reading, rest) =>
      some ({ lifecycle with listeners := assign client rest lifecycle.listeners }.react reading)
    | none =>
      if around.channelIsOpen then none
      else
        some ({ lifecycle with listeners := lifecycle.listeners.filter (·.1 ≠ client) }, [])

def step (around : Surroundings) (lifecycle : Lifecycle) :
    Task → Option (Lifecycle × List Effect)
  | .job id => lifecycle.stepJob around id
  | .session client task =>
    ((lifecycle.sessions.lookup client).bind (·.step around.session task)).map
      (lifecycle.absorb client)
  | .listener client => lifecycle.stepListener around client

/-- Announces a change to all listeners, each of which keeps `capacity` unread ones. -/
def announce (lifecycle : Lifecycle) (capacity : Nat) (change : SettingsChange) : Lifecycle :=
  { lifecycle with listeners := lifecycle.listeners.map fun (client, inbox) =>
      (client, inbox.deliver capacity change) }

/-- Gives a client the connection that it asked for, or the texts that say why there is none. -/
def supply (lifecycle : Lifecycle) (client : ClientId) (asker : Session.Asker)
    (result : Except (List String) ConnectionId) : Lifecycle × List Effect :=
  lifecycle.withSession client (·.supply asker result)

def backgroundTasks (lifecycle : Lifecycle) : List Task :=
  (lifecycle.sessions.flatMap fun (client, session) =>
    (session.tasks.filter (· ≠ .call)).map (.session client)) ++
  lifecycle.listeners.map (.listener ·.1)

/-- The moment that a task waits for, if it waits for one. -/
def deadline? (lifecycle : Lifecycle) : Task → Option Nat
  | .job id =>
    match lifecycle.controller.awaited? id with
    | none => lifecycle.controller.deadline? id
    | some client => (lifecycle.sessions.lookup client).bind (·.deadline? .call)
  | .session client task => (lifecycle.sessions.lookup client).bind (·.deadline? task)
  | .listener _ => none

end Lifecycle

end NplLifecycle
