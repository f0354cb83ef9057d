import NplLifecycle.Rehearsal.Call

/-!
# The schedule of a rehearsal

One task runs at a time, until it has to wait.  A new task, and one that can get on again, stands in
line behind those that were ready before it; tasks that are woken together stand in the order in
which they began to wait.  The calls that whoever conducts the rehearsal waits for are not in the
line: they come first at the beginning and whenever time has passed, and otherwise run only when the
line is empty.  Time passes only while everything waits, and then it jumps to the next moment that a
task waits for.
-/

namespace NplLifecycle.Rehearsal

def Call.result? (call : Call) : Option Result :=
  match call.stage with
  | .ended result => some result
  | _ => none

namespace World

def stepServer (world : World) (connection : ConnectionId) : Option World :=
  ((world.server? connection).bind (·.step world.now)).map fun (server, received) =>
    let world := world.withServer connection fun _ => server
    match received with
    | none => world
    | some content =>
      world.note fun journal =>
        { journal with received := journal.received ++ [(connection, content)] }

def stepLifecycle (world : World) (index : Nat) (task : Lifecycle.Task) : Option World :=
  world.stations[index]?.bind fun station =>
    (station.lifecycle.step (world.surroundings station) task).map (world.absorb index station)

/-- Advances a listener; one that has nothing to read begins to wait for a change. -/
def stepListener (world : World) (index : Nat) (client : ClientId) : Option World :=
  (world.stepLifecycle index (.listener client)).orElse fun _ =>
    let listens := world.stations[index]?.any fun station =>
      (station.lifecycle.listeners.lookup client).isSome
    if listens && ! world.waiters.contains (index, client) then
      some { world with waiters := world.waiters ++ [(index, client)] }
    else none

def stepTask (world : World) : Task → Option World
  | .server connection => world.stepServer connection
  | .lifecycle index (.listener client) => world.stepListener index client
  | .lifecycle index task => world.stepLifecycle index task
  | .call id => world.stepCall id

def awaitedJobs (world : World) : List (Nat × JobId) :=
  world.calls.filterMap fun call =>
    match call.stage with
    | .working index job _ => some (index, job)
    | _ => none

/-- The tasks of the lifecycle at a station, apart from the jobs that calls wait for. -/
def stationTasks (world : World) (index : Nat) (station : Station) : List Task :=
  let awaited := world.awaitedJobs
  let jobs := station.lifecycle.controller.jobs.filter fun job => ! awaited.contains (index, job.id)
  (station.lifecycle.backgroundTasks ++ jobs.map fun job => Lifecycle.Task.job job.id).map
    (.lifecycle index)

def foreground (world : World) : List Nat :=
  (world.calls.filter (·.task.isNone)).map Call.id

/-- All tasks but the calls that are waited for. -/
def background (world : World) : List Task :=
  (world.servers.map fun server => Task.server server.connection) ++
  (world.stations.zipIdx.flatMap fun (station, index) => world.stationTasks index station) ++
  (world.calls.filter (·.task.isSome)).map (.call ·.id)

/-- The moment that a task waits for, if it waits for one. -/
def deadline? (world : World) : Task → Option Nat
  | .server connection => (world.server? connection).bind (·.deadline? world.now)
  | .lifecycle index task => world.stations[index]?.bind (·.lifecycle.deadline? task)
  | .call id =>
    (world.calls.find? (·.id = id)).bind fun call =>
      match call.stage with
      | .acting _ _ wake _ | .waiting wake => some wake
      | .working index job _ => world.stations[index]?.bind (·.lifecycle.deadline? (.job job))
      | .startingClient | .stoppingClient => world.client?.bind (·.deadline? .call)
      | .fresh _ | .answered .. | .ended _ => none

/-- Takes note of which tasks are new, of which can get on now, and of the moments that tasks wait
for.  A new task has a turn of its own, be it that there is nothing for it to do. -/
def takeNote (world : World) (running : Option Task) : World :=
  let background := world.background
  let (old, new) := background.partition world.begun.contains
  let awake := old.filter fun task =>
    running ≠ some task && ! world.ready.contains task && (world.stepTask task).isSome
  let alarms := (background ++ world.foreground.map Task.call).filterMap fun task =>
    ((world.deadline? task).filter (world.now < ·)).map fun moment => (task, moment)
  let kept := world.alarms.filter alarms.contains
  { world with
    begun := background
    ready := world.ready ++ new ++ awake
    alarms := kept ++ alarms.filter (! kept.contains ·) }

/-- Advances a task until it has to wait, or until the fuel is used up. -/
def exhaust (world : World) (task : Task) : (fuel : Nat) → World
  | 0 => world
  | fuel + 1 =>
    match world.stepTask task with
    | none => world
    | some world => (world.takeNote (some task)).exhaust task fuel

/-- Runs the tasks that stand in line, until nobody does. -/
def settle (world : World) : (fuel : Nat) → World
  | 0 => world
  | fuel + 1 =>
    match world.ready with
    | [] => world
    | task :: rest => (({ world with ready := rest }.exhaust task fuel).takeNote none).settle fuel

def conduct (world : World) (fuel : Nat) : List Nat → World
  | [] => world
  | id :: rest => ((world.exhaust (.call id) fuel).takeNote none).conduct fuel rest

def isDone (world : World) : Bool :=
  (world.calls.filter (·.task.isNone)).all (·.result?.isSome)

/-- Lets time pass until a moment; the tasks that wait for it get in line. -/
def passTo (world : World) (moment : Nat) : World :=
  let due := (world.alarms.filter fun alarm => alarm.2 ≤ moment).map Prod.fst
  let woken := due.filter fun task => world.background.contains task
  { world with now := moment, ready := world.ready ++ woken }

/-- Runs until the calls that are waited for have ended. -/
def runUntilDone (world : World) : (fuel : Nat) → World
  | 0 => world
  | fuel + 1 =>
    let world := world.conduct fuel world.foreground
    if world.isDone then world
    else
      let world := world.settle fuel
      if world.foreground.any fun id => (world.stepCall id).isSome then world.runUntilDone fuel
      else
        match (world.alarms.map Prod.snd).min? with
        | none => world
        | some moment => (world.passTo moment).runUntilDone fuel

/-- How many steps an operation may take. -/
def fuel : Nat := 100000

/-- Takes the calls off that have ended, and notes those of them in the background. -/
def sweep (world : World) : World :=
  let ended := world.calls.filterMap fun call =>
    match call.task, call.result? with
    | some task, some result => some (task, result)
    | _, _ => none
  { world with calls := world.calls.filter (·.result?.isNone) }.note fun journal =>
    { journal with finished := journal.finished ++ ended }

def rest (world : World) : World :=
  ((world.takeNote none).settle fuel).sweep

/-- Makes calls and waits until all of them have ended; gives how they ended, in their order. -/
def performOnly (world : World) (requests : List Request) : World × List (Option Result) :=
  let world := requests.foldl (fun world request => (world.beginCall request).1) world
  let world := world.runUntilDone fuel
  (world, (world.calls.filter (·.task.isNone)).map Call.result?)

/-- Makes calls, waits until all of them have ended, and then runs everything that can get on. -/
def perform (world : World) (requests : List Request) : World × List (Option Result) :=
  let (world, results) := world.performOnly requests
  (world.rest, results)

def readJournal (world : World) : World × Journal :=
  ({ world with journal := {} }, world.journal)

end World

end NplLifecycle.Rehearsal
