import NplLifecycle.Controller.Basic
import NplLifecycle.Workspace.Resolve

/-!
# Steps of a controller

How jobs get on.  A step runs a job from one point where it waits to the next.  Where it waits for
a client, the step that follows is told how the client's start or stop went.
-/

namespace NplLifecycle.Controller

def enter (controller : Controller) (state : LifecycleState) : Controller × List Action :=
  ({ controller with state := state }, [.enter state])

def finish (controller : Controller) (id : JobId) (outcome : Outcome) :
    Controller × List Action :=
  ({ controller with jobs := controller.jobs.filter (·.id ≠ id) }.release, [.finish id outcome])

/-- What the user and the log are told about a restart after a change of the settings. -/
def announceSettled : Except ClientError Unit → List Action
  | .ok _ => [.showInfo "NPL Language Server restarted with updated workspace settings."]
  | .error failure =>
    [.log (.error ("Failed to restart language server after settings change: " ++
        failure.message)),
      .showError
        "Failed to restart NPL Language Server. You may need to reload the window."]

def finishStart (controller : Controller) (job : Job) (result : Except ClientError Unit) :
    Controller × List Action :=
  let announcements := match job.errand with
    | .settle => announceSettled result
    | _ => []
  let (controller, actions) := controller.finish job.id (.done result)
  (controller, announcements ++ actions)

def configure (situation : Situation) (options : Options) (roots : List Root)
    (folder workspace : Settings) : ClientConfiguration where
  roots := Workspace.resolve situation.workingDirectory folder.sources folder.testSources roots
  debounceMs := workspace.debounceMs
  contribLibraries := folder.contribLibraries
  maxRestarts := options.maxRestarts

/-- Goes on with a start when no client is left: reads the settings, listens for changes and opens
a client.  Nothing comes between the reading and the listening, so no change is missed. -/
def continueStart (situation : Situation) (controller : Controller) (job : Job)
    (context : ActivationContext) (scope : Path) (roots : List Root) :
    Controller × List Action :=
  let (controller, entered) := controller.enter .starting
  match situation.settings (some scope), situation.settings none with
  | .ok folder, .ok workspace =>
    let configuration := configure situation controller.options roots folder workspace
    let client : Client := ⟨controller.nextClient, configuration⟩
    let resolution := Workspace.resolveLog situation.workingDirectory folder.sources
      folder.testSources roots
    ({ controller.moveJob job.id (.opening client) with nextClient := client.id + 1 },
      entered ++ resolution.map Action.log ++
        [.log (.info ("Language client initialized with workspace folders: " ++
            configuration.describe)),
          .subscribe client.id, .openClient client context])
  | .error cause, _ | _, .error cause =>
    let (controller, left) := controller.enter .idle
    let (controller, ended) := controller.finishStart job (.error (.settings cause))
    (controller, entered ++ left ++ ended)

def unsubscribe (controller : Controller) : Controller × List Action :=
  ({ controller with subscription := none },
    (controller.subscription.map Action.unsubscribe).toList)

/-- Enters a stop: the client, if there is one, is no longer the controller's. -/
def enterStop (controller : Controller) : Controller × List Action :=
  let (controller, entered) := controller.enter .stopping
  let (controller, unsubscribed) := controller.unsubscribe
  ({ controller with generation := controller.generation + 1, client := none },
    entered ++ unsubscribed)

/-- Starts a client in the place of the one that is there. -/
def runStart (situation : Situation) (controller : Controller) (job : Job)
    (context : ActivationContext) : Controller × List Action :=
  match situation.roots.head? with
  | none => controller.finishStart job (.error .noWorkspace)
  | some first =>
    let controller := { controller with
      context := some context
      generation := controller.generation + 1 }
    match controller.client with
    | none => controller.continueStart situation job context first.path situation.roots
    | some client =>
      let (controller, actions) := controller.enterStop
      (controller.moveJob job.id
          (.closing client.id (.replace context first.path situation.roots)),
        .log (.info "Client already exists, stopping it before restart") :: actions ++
          [.closeClient client.id])

def warnUnclean (opening : String) : Except ClientError Unit → List Action
  | .ok _ => []
  | .error failure => [.log (.warn (opening ++ failure.message))]

/-- The opening of the warning about a client that did not stop well. -/
def uncleanClient : String := "Language client did not shut down cleanly: "

/-- The opening of the warning about a client that was to be replaced. -/
def uncleanPrevious : String := "Previous language client did not shut down cleanly: "

def afterStop (situation : Situation) (controller : Controller) (job : Job)
    (result : Except ClientError Unit) (aftermath : Aftermath) : Controller × List Action :=
  match aftermath with
  | .finish => controller.finish job.id (.done result)
  | .start context =>
    let (controller, actions) := controller.runStart situation job context
    (controller, warnUnclean uncleanClient result ++ actions)
  | .replace context scope roots =>
    let (controller, actions) := controller.continueStart situation job context scope roots
    (controller, warnUnclean uncleanPrevious result ++ actions)
  | .settle =>
    match result with
    | .error failure =>
      let (controller, actions) := controller.finish job.id (.done result)
      (controller, .log (.error ("Failed to stop language server before restart: " ++
        failure.message)) :: actions)
    | .ok _ =>
      let wake := situation.now + controller.options.settleMs
      (controller.release.moveJob job.id (.settling controller.generation wake), [])

/-- Ends a stop: the server is stopped whatever the client's stop gave. -/
def concludeStop (situation : Situation) (controller : Controller) (job : Job)
    (result : Except ClientError Unit) (aftermath : Aftermath) : Controller × List Action :=
  let (controller, entered) := controller.enter .idle
  let (controller, actions) := controller.afterStop situation job result aftermath
  (controller, .stopServer :: entered ++ actions)

def runStop (situation : Situation) (controller : Controller) (job : Job)
    (aftermath : Aftermath) : Controller × List Action :=
  let client := controller.client
  let (controller, actions) := controller.enterStop
  match client with
  | some client =>
    (controller.moveJob job.id (.closing client.id aftermath),
      actions ++ [.closeClient client.id])
  | none =>
    let (controller, more) := controller.concludeStop situation job (.ok ()) aftermath
    (controller, actions ++ more)

def run (situation : Situation) (controller : Controller) (job : Job) :
    Controller × List Action :=
  match job.errand with
  | .start context => controller.runStart situation job context
  | .stop => controller.runStop situation job .finish
  | .restart context => controller.runStop situation job (.start context)
  | .settle => controller.runStop situation job .settle
  | .inspect =>
    controller.finish job.id (.configuration (controller.client.map Client.configuration))

def resumeSettling (situation : Situation) (controller : Controller) (job : Job)
    (generation : Nat) : Controller × List Action :=
  if controller.generation ≠ generation then controller.finish job.id .superseded
  else
    match controller.context with
    | some context => controller.runStart situation job context
    | none =>
      let (controller, actions) := controller.finish job.id .contextMissing
      (controller,
        .log (.error "Cannot restart language server: activation context is missing") ::
        .showError "Failed to restart NPL Language Server. Please reload the window." :: actions)

/-- Advances a job that does not wait for a client; nothing while it waits for the lock or for the
end of its pause. -/
def step (situation : Situation) (controller : Controller) (id : JobId) :
    Option (Controller × List Action) :=
  (controller.job? id).bind fun job =>
    match job.stage with
    | .arriving =>
      match controller.acquire id with
      | (controller, true) => some (controller.run situation job)
      | (controller, false) => some (controller.moveJob id .inLine, [])
    | .inLine =>
      if controller.holder = some id then some (controller.run situation job) else none
    | .settling generation wake =>
      if situation.now < wake then none
      else
        match controller.acquire id with
        | (controller, true) => some (controller.resumeSettling situation job generation)
        | (controller, false) => some (controller.moveJob id (.returning generation), [])
    | .returning generation =>
      if controller.holder = some id then
        some (controller.resumeSettling situation job generation)
      else none
    | .closing .. | .opening .. => none

def clientStopped (situation : Situation) (controller : Controller) (id : JobId)
    (result : Except ClientError Unit) : Option (Controller × List Action) :=
  (controller.job? id).bind fun job =>
    match job.stage with
    | .closing _ aftermath => some (controller.concludeStop situation job result aftermath)
    | _ => none

/-- Advances a job whose client has been started, or could not be. -/
def clientStarted (controller : Controller) (id : JobId) (result : Except ClientError Unit) :
    Option (Controller × List Action) :=
  (controller.job? id).bind fun job =>
    match job.stage, result with
    | .opening client, .ok _ =>
      let controller := { controller with
        client := some client
        subscription := some client.id }
      let (controller, entered) := controller.enter .running
      let (controller, actions) := controller.finishStart job (.ok ())
      some (controller,
        entered ++ .log (.info "NPL Language Server started") :: actions)
    | .opening client, .error failure =>
      let (controller, entered) := controller.enter .idle
      let (controller, actions) := controller.finishStart job (.error failure)
      some (controller,
        [.unsubscribe client.id, .dropClient client.id, .stopServer] ++ entered ++
          .log (.error ("Failed to start NPL Language Server client: " ++ failure.message)) ::
          actions)
    | _, _ => none

def awaited? (controller : Controller) (id : JobId) : Option ClientId :=
  (controller.job? id).bind fun job =>
    match job.stage with
    | .closing client _ => some client
    | .opening client => some client.id
    | _ => none

def deadline? (controller : Controller) (id : JobId) : Option Nat :=
  (controller.job? id).bind fun job =>
    match job.stage with
    | .settling _ wake => some wake
    | _ => none

end NplLifecycle.Controller
