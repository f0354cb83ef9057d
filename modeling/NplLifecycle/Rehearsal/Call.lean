import NplLifecycle.Rehearsal.World

/-!
# Calls of a rehearsal

How the calls that are under way get on.  A call of the application asks the helpers and the host
of the rehearsal, which answer at once, and the application's own controller, for which it waits.
-/

namespace NplLifecycle.Rehearsal.World

def moveCall (world : World) (id : Nat) (stage : CallStage) : World :=
  { world with calls := world.calls.map fun call =>
      if call.id = id then { call with stage := stage } else call }

/-- Adds a call that is waited for; gives its number. -/
def beginCall (world : World) (request : Request) : World × Nat :=
  ({ world with
      calls := world.calls ++ [⟨world.nextCall, none, .fresh request⟩]
      nextCall := world.nextCall + 1 }, world.nextCall)

/-- Adds a call in the background; gives its number there. -/
def spawn (world : World) (request : Request) : World × Nat :=
  ({ world with
      calls := world.calls ++ [⟨world.nextCall, some world.nextTask, .fresh request⟩]
      nextCall := world.nextCall + 1
      nextTask := world.nextTask + 1 }, world.nextTask)

def reload (world : World) : World × Except LoadError (List SettingKey) :=
  match world.host with
  | .scripted _ => (world, .ok [])
  | .onDisk host =>
    match host.reload world.store world.environment with
    | .error error => (world, .error error)
    | .ok (host, changed) =>
      let world := { world with host := .onDisk host }
      match LocalHost.announcement? changed with
      | none => (world, .ok changed)
      | some change => ((world.log (LocalHost.changedLine changed)).announce change, .ok changed)

def updateSetting (world : World) (folder : Path) (key : SettingKey) (value : Json) :
    World × Except App.Failure Unit :=
  match world.host with
  | .scripted host =>
    let world := world.note fun journal =>
      { journal with host := journal.host ++ [.update folder key value] }
    match host.updateFailure with
    | some cause => (world, .error (.helper [cause, "disk full"]))
    | none => (world, .ok ())
  | .onDisk _ =>
    match Settings.write world.store folder key value with
    | (store, .error error) =>
      ({ world with store := store }, .error (.helper [error.message]))
    | (store, .ok ()) =>
      let (world, result) := { world with store := store }.reload
      (world, (result.mapError fun error => .helper [error.message]).map fun _ => ())

def pickFolder (world : World) (label : String) (start : Path) : World × Option Path :=
  let world := match world.host with
    | .scripted _ =>
      world.note fun journal =>
        { journal with host := journal.host ++ [HostEntry.pick label start] }
    | .onDisk _ => world
  let (folder, host) := world.host.pick
  ({ world with host := host }, folder)

def helperResult (failure : Option String) : Except App.Failure Unit :=
  match failure with
  | some cause => .error (.helper [cause])
  | none => .ok ()

def noteHelpers (world : World) (entries : List HelperEntry) : World :=
  world.note fun journal => { journal with helpers := journal.helpers ++ entries }

def manage (world : World) (entry : ManagerEntry) (refusal : LogLine)
    (failure : Option String → Option String → Option String) :
    World × Except App.Failure Unit :=
  match world.managerKind with
  | .plain => (world.log refusal, .ok ())
  | .full version clean => (world.noteManager entry, helperResult (failure version clean))

/-- Answers a question of the application that is not for the controller. -/
def answer (world : World) : App.Question → World × App.Answer
  | .control _ => (world, .done (.ok ()))
  | .restoreLogin =>
    match world.helpers.login with
    | none => (world, .done (.ok ()))
    | some helper => (world.noteHelpers [.login], .done (helperResult helper.failure))
  | .checkInstructions root =>
    match world.helpers.instructions with
    | none => (world, .done (.ok ()))
    | some helper =>
      let failure := if helper.only.all root.path.agrees then helper.failure else none
      (world.noteHelpers [.instructions root], .done (helperResult failure))
  | .detectMigration roots =>
    match world.helpers.migration with
    | none => (world, .done (.ok ()))
    | some helper =>
      (world.noteHelpers (roots.map .migrationRoot ++ [.migration]),
        .done (helperResult helper.failure))
  | .selectVersion =>
    let (world, result) := world.manage (.selectVersion world.context.clientName)
      (.warn "This server manager does not support selecting a server version")
      fun version _ => version
    (world, .done result)
  | .cleanServerFiles =>
    let (world, result) := world.manage (.cleanServerFiles world.context.clientName)
      (.warn "This server manager does not manage server files") fun _ clean => clean
    (world, .done result)
  | .pickFolder label start =>
    let (world, folder) := world.pickFolder label start
    (world, .picked folder)
  | .store folder key value =>
    let (world, result) := world.updateSetting folder key value
    (world, .done result)

/-- Gives an errand to the controller at a station, for a call that waits for it. -/
def giveErrand (world : World) (id index : Nat) (errand : Controller.Errand)
    (stage : Option App.Stage) : World :=
  match world.stations[index]? with
  | none => world
  | some station =>
    let (controller, job) := station.lifecycle.controller.begin errand
    let station := { station with lifecycle := { station.lifecycle with controller } }
    (world.setStation index station).moveCall id (.working index job stage)

def remark (world : World) : App.Remark → World
  | .log line => world.log line
  | .showInfo text => world.tellUser .info text
  | .showError text => world.tellUser .error text

def follow (world : World) (id : Nat) (progress : App.Progress) : World :=
  let world := progress.1.foldl remark world
  match progress.2 with
  | .finish result => world.moveCall id (.ended (.done result))
  | .ask (.control errand) stage => world.giveErrand id 0 errand (some stage)
  | .ask question stage =>
    let (world, answer) := world.answer question
    world.moveCall id (.answered stage answer)

def changeClient (world : World) (change : Session → Session × List Session.Effect) : World :=
  match world.stations[0]? with
  | none => world
  | some station => world.absorb 0 station (station.lifecycle.withSession 0 change)

def client? (world : World) : Option Session :=
  world.stations[0]?.bind (·.lifecycle.sessions.lookup 0)

def sessionSurroundings (world : World) : Session.Surroundings :=
  (world.surroundings (world.stations[0]?.getD ⟨.idle ⟨0, 0⟩, .standard⟩)).session

def startCall (world : World) (id : Nat) : Request → World
  | .app call => world.follow id (App.begin world.context world.host.roots call)
  | .control errand => world.giveErrand id world.tested errand none
  | .unknown command =>
    world.moveCall id (.ended (.done (.error (.helper [Command.unknownMessage command]))))
  | .startClient => (world.changeClient (·.beginStart)).moveCall id .startingClient
  | .stopClient =>
    (world.changeClient (·.beginStop world.sessionSurroundings)).moveCall id .stoppingClient
  | .act connection actions =>
    match world.server? connection with
    | none => world.moveCall id (.ended .noConnection)
    | some _ => world.moveCall id (.acting connection actions 0 true)
  | .wait time => world.moveCall id (.waiting (world.now + time))

/-- Lets a server do the next thing that a call wants it to do. -/
def stepActing (world : World) (id : Nat) (connection : ConnectionId) (isOpen : Bool) :
    List Action → World
  | [] => world.moveCall id (.ended (.acted isOpen))
  | .pause time :: rest =>
    world.moveCall id (.acting connection rest (world.now + time) isOpen)
  | .close :: _ =>
    (world.withServer connection Server.close).moveCall id (.acting connection [] 0 false)
  | action :: rest =>
    (world.withServer connection (·.act world.now .null action)).moveCall id
      (.acting connection rest 0 isOpen)

/-- How the start or the stop of the session without a controller went. -/
def takeReport (world : World) : Option (World × Lifecycle.Report) :=
  world.stations[0]?.bind fun station =>
    (station.lifecycle.reports.lookup 0).map fun report =>
      (world.setStation 0 { station with lifecycle := { station.lifecycle with
          reports := station.lifecycle.reports.filter (·.1 ≠ 0) } }, report)

/-- Advances the start or the stop of the session without a controller. -/
def stepClient (world : World) (id : Nat) : Option World :=
  match world.takeReport with
  | some (world, .stopped result) =>
    some (world.moveCall id (.ended (.done (result.mapError .client))))
  | some (world, .started result) =>
    let welcome := (world.client?.bind Session.welcome).getD default
    some (world.moveCall id (.ended (.welcome (result.map fun _ => welcome))))
  | none =>
    world.client?.bind fun session =>
      (session.step world.sessionSurroundings .call).map fun outcome =>
        world.changeClient fun _ => outcome

def resultOf : Controller.Outcome → Result
  | .done result => .done (result.mapError .client)
  | .configuration configuration => .configuration configuration
  | .superseded | .contextMissing => .done (.ok ())

/-- Advances a call; nothing while it waits, or once it has ended. -/
def stepCall (world : World) (id : Nat) : Option World :=
  (world.calls.find? (·.id = id)).bind fun call =>
    match call.stage with
    | .fresh request => some (world.startCall id request)
    | .answered stage answer =>
      some (world.follow id (App.resume world.context world.host.roots stage answer))
    | .working index job stage =>
      match world.outcomes.lookup (index, job), stage with
      | some outcome, none => some (world.moveCall id (.ended (resultOf outcome)))
      | some (.done result), some stage =>
        some (world.moveCall id (.answered stage (.done (result.mapError .client))))
      | some _, some stage => some (world.moveCall id (.answered stage (.done (.ok ()))))
      | none, _ =>
        world.stations[index]?.bind fun station =>
          (station.lifecycle.step (world.surroundings station) (.job job)).map
            (world.absorb index station)
    | .startingClient | .stoppingClient => world.stepClient id
    | .acting connection actions wake isOpen =>
      if world.now < wake then none
      else some (world.stepActing id connection isOpen actions)
    | .waiting wake =>
      if world.now < wake then none else some (world.moveCall id (.ended (.done (.ok ()))))
    | .ended _ => none

end NplLifecycle.Rehearsal.World
