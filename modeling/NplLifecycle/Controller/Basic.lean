import NplLifecycle.Client.Error
import NplLifecycle.Client.Configuration
import NplLifecycle.Controller.State
import NplLifecycle.Settings.Basic
import NplLifecycle.Settings.Change
import NplLifecycle.Log

/-!
# Controllers

A controller owns at most one client.  Whatever starts or stops it is a job, and a job works only
while it holds the controller's lock; jobs that find the lock taken stand in line, first come,
first served.  A restart after a change of the settings gives the lock back for a while, so that
changes that come together are served together, and goes on only if no other job started or
stopped the client meanwhile.  The generation tells: every start and every stop counts it up.
-/

namespace NplLifecycle

structure ActivationContext where
  /-- The directory of the server's files. -/
  storageDirectory : Path
  clientName : String
  clientVersion : String
  deriving DecidableEq, Repr, Inhabited

/-- The number of a client, and of the listener that belongs to it. -/
abbrev ClientId := Nat

abbrev JobId := Nat

namespace Controller

structure Options where
  /-- The pause before a restart after a change of the settings, in milliseconds. -/
  settleMs : Nat
  /-- How often a client may reconnect. -/
  maxRestarts : Nat
  deriving DecidableEq, Repr, Inhabited

structure Client where
  id : ClientId
  configuration : ClientConfiguration
  deriving DecidableEq, Repr

inductive Errand where
  | start (context : ActivationContext)
  | stop
  | restart (context : ActivationContext)
  /-- To restart after a change of the settings. -/
  | settle
  /-- To tell the configuration of the client. -/
  | inspect
  deriving DecidableEq, Repr

inductive Aftermath where
  | finish
  | start (context : ActivationContext)
  /-- Goes on with the start that found the client still there. -/
  | replace (context : ActivationContext) (scope : Path) (roots : List Root)
  | settle
  deriving DecidableEq, Repr

inductive Stage where
  /-- Has not asked for the lock yet. -/
  | arriving
  | inLine
  /-- Waits until a client has been stopped. -/
  | closing (client : ClientId) (aftermath : Aftermath)
  /-- Waits until a client has been started. -/
  | opening (client : Client)
  /-- Waits for the settings to settle, without the lock. -/
  | settling (generation : Nat) (wake : Nat)
  /-- Stands in line again. -/
  | returning (generation : Nat)
  deriving DecidableEq, Repr

structure Job where
  id : JobId
  errand : Errand
  stage : Stage
  deriving DecidableEq, Repr

inductive Outcome where
  | done (result : Except ClientError Unit)
  | configuration (configuration : Option ClientConfiguration)
  /-- Another job started or stopped the client meanwhile. -/
  | superseded
  /-- Nobody has ever started the client. -/
  | contextMissing
  deriving Repr

inductive Action where
  | enter (state : LifecycleState)
  | log (line : LogLine)
  | showInfo (text : String)
  | showError (text : String)
  /-- Listens for changes of the settings. -/
  | subscribe (client : ClientId)
  | unsubscribe (client : ClientId)
  /-- Makes a client and starts it. -/
  | openClient (client : Client) (context : ActivationContext)
  | closeClient (client : ClientId)
  /-- Forgets a client that did not start. -/
  | dropClient (client : ClientId)
  | stopServer
  | finish (job : JobId) (outcome : Outcome)
  deriving Repr

structure Situation where
  /-- The time in milliseconds. -/
  now : Nat
  workingDirectory : Path
  roots : List Root
  /-- The settings of a folder, or those of the whole workspace. -/
  settings : Option Path → Except String Settings

end Controller

open Controller in
/-- Starts, stops and restarts the client of a host. -/
structure Controller where
  options : Options
  state : LifecycleState
  client : Option Client
  /-- The listener for changes of the settings, by the number of its client. -/
  subscription : Option ClientId
  /-- The context of the last start. -/
  context : Option ActivationContext
  generation : Nat
  /-- The job that holds the lock. -/
  holder : Option JobId
  /-- The jobs that wait for the lock. -/
  line : List JobId
  jobs : List Job
  nextClient : ClientId
  nextJob : JobId
  deriving Repr

namespace Controller

def idle (options : Options) : Controller where
  options := options
  state := .idle
  client := none
  subscription := none
  context := none
  generation := 0
  holder := none
  line := []
  jobs := []
  nextClient := 0
  nextJob := 0

def restartKeys : List SettingKey :=
  [.sources, .testSources, .contribLibraries]

def isRelevant (change : SettingsChange) : Bool :=
  restartKeys.any change.affects

def job? (controller : Controller) (id : JobId) : Option Job :=
  controller.jobs.find? (·.id = id)

def moveJob (controller : Controller) (id : JobId) (stage : Stage) : Controller :=
  { controller with jobs := controller.jobs.map fun job =>
      if job.id = id then { job with stage := stage } else job }

/-- Adds a job; gives its number. -/
def begin (controller : Controller) (errand : Errand) : Controller × JobId :=
  ({ controller with
      jobs := controller.jobs ++ [⟨controller.nextJob, errand, .arriving⟩]
      nextJob := controller.nextJob + 1 }, controller.nextJob)

/-- Gives the lock to the first in line, or to nobody. -/
def release (controller : Controller) : Controller :=
  { controller with holder := controller.line.head?, line := controller.line.tail }

/-- Takes the lock for a job if it is free; otherwise the job goes to the end of the line. -/
def acquire (controller : Controller) (id : JobId) : Controller × Bool :=
  match controller.holder with
  | none => ({ controller with holder := some id }, true)
  | some _ => ({ controller with line := controller.line ++ [id] }, false)

end Controller

end NplLifecycle
