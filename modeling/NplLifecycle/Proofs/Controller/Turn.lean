import NplLifecycle.Proofs.Controller.Transition

/-!
# Turns

A job that has the lock runs until it waits for a client or gives the lock back.  What such a turn
can come to is listed here once, in seven forms; the errands reach them along different ways, and
what all ways have in common (the states entered, the count of starts and stops) stands beside the
forms.  Every invariant of a controller is read off this list.
-/

namespace NplLifecycle.Controller

/-- Has a job asked for the lock, and not given it back? -/
def Stage.isQueued : Stage → Bool
  | .arriving | .settling .. => false
  | .inLine | .closing .. | .opening _ | .returning _ => true

/-- Has a job not worked yet? -/
def Stage.isNew : Stage → Bool
  | .arriving | .inLine => true
  | _ => false

/-- Does a job hold the lock while it waits for a client? -/
def Stage.isBusy : Stage → Bool
  | .closing .. | .opening _ => true
  | _ => false

/-- The generation that a job will compare when its pause is over. -/
def Stage.recorded? : Stage → Option Nat
  | .settling generation _ | .returning generation => some generation
  | _ => none

theorem Stage.arriving_or_inLine {stage : Stage} (hnew : stage.isNew = true) :
    stage = .arriving ∨ stage = .inLine := by
  cases stage with
  | arriving => exact .inl rfl
  | inLine => exact .inr rfl
  | closing | opening | settling | returning => exact absurd hnew (by simp [isNew])

theorem Stage.not_isBusy_of_isNew {stage : Stage} (hnew : stage.isNew = true) :
    stage.isBusy = false := by
  rcases arriving_or_inLine hnew with rfl | rfl <;> rfl

theorem Stage.not_recorded_of_isNew {stage : Stage} (hnew : stage.isNew = true) :
    stage.recorded? = none := by
  rcases arriving_or_inLine hnew with rfl | rfl <;> rfl

def Errand.opens : Errand → Bool
  | .start _ | .restart _ => true
  | _ => false

/-- Is an errand to start or stop a client, at somebody's wish? -/
def Errand.isExplicit : Errand → Bool
  | .start _ | .stop | .restart _ => true
  | .settle | .inspect => false

theorem Errand.isExplicit_of_opens {errand : Errand} (hopens : errand.opens = true) :
    errand.isExplicit = true := by
  cases errand <;> simp_all [Errand.opens, Errand.isExplicit]

/-- The stage of a job is one that its errand comes to. -/
def Job.Fits (job : Job) : Prop :=
  match job.stage with
  | .arriving | .inLine => True
  | .settling .. | .returning _ | .closing _ .settle => job.errand = .settle
  | .closing _ .finish => job.errand = .stop
  | .closing _ (.start context) => job.errand = .restart context
  | .closing _ (.replace ..) | .opening _ => job.errand.opens ∨ job.errand = .settle

/-- There is neither a client nor a listener, and the state is the given one. -/
def Vacant (state : LifecycleState) (controller : Controller) : Prop :=
  controller.state = state ∧ controller.client = none ∧ controller.subscription = none

/-- Nothing runs, nothing starts, and nobody listens. -/
def Still (controller : Controller) : Prop :=
  controller.Vacant .idle ∨ controller.Vacant .stopping

/-- A client runs with its listener, or there is neither. -/
def Rested (controller : Controller) : Prop :=
  (∃ client, controller.state = .running ∧ controller.client = some client ∧
    controller.subscription = some client.id) ∨ controller.Vacant .idle

/-- The lock is the job's, or free. -/
def Open (controller : Controller) (id : JobId) : Prop :=
  controller.holder = none ∨ controller.holder = some id

/-- The roots of a start, and the folder whose settings it reads: found in this turn, or before the
client in its way was stopped. -/
def Found (situation : Situation) (job : Job) (scope : Path) (roots : List Root) : Prop :=
  (roots = situation.roots ∧ situation.roots.head?.map Root.path = some scope) ∨
    ∃ client context, job.stage = .closing client (.replace context scope roots)

structure Course (before : Controller) (job : Job) (actions : List Action)
    (after : Controller) : Prop where
  leads : before.state.Leads (entries actions) after.state
  generation_le : before.generation ≤ after.generation
  touches_of_lt : before.generation < after.generation → Touches (entries actions)
  lt_of_touches : Touches (entries actions) →
    before.generation < after.generation ∨ job.stage.isBusy = true
  starting : .starting ∈ entries actions → job.stage.isBusy = true ∨ job.errand.opens = true ∨
    job.stage.recorded? = some before.generation
  context : before.context.isSome → after.context.isSome
  nextJob : after.nextJob = before.nextJob

inductive Turn (situation : Situation) (before : Controller) (job : Job) :
    Controller → List Action → Prop
  /-- The lock is another job's. -/
  | wait {stage : Stage} (hheld : before.holder.isSome)
      (hstage : (job.stage = .arriving ∧ stage = .inLine) ∨
        ∃ generation wake, job.stage = .settling generation wake ∧
          stage = .returning generation) :
      Turn situation before job
        ({ before with line := before.line ++ [job.id] }.moveJob job.id stage) []
  /-- The job ends and leaves everything as it was. -/
  | leave {actions : List Action} {outcome : Outcome} (hopen : before.Open job.id)
      (hidle : job.stage.isBusy = false)
      (hserved : job.errand = .settle → job.stage.recorded?.isSome)
      (hstop : job.errand ≠ .stop) (houtward : outward actions = [])
      (hfinish : .finish job.id outcome ∈ actions) :
      Turn situation before job ((before.hold job.id).retire job.id) actions
  /-- The client begins to stop. -/
  | close {actions : List Action} {client : Client} {aftermath : Aftermath}
      {context : Option ActivationContext} {generation : Nat} (hopen : before.Open job.id)
      (hclient : before.client = some client) (hlt : before.generation < generation)
      (hcause : job.stage.recorded? = none ∨ job.errand.isExplicit = true ∨
        job.stage.recorded? = some before.generation)
      (hcontext : before.context.isSome → context.isSome)
      (hfits : Job.Fits ⟨job.id, job.errand, .closing client.id aftermath⟩)
      (hfound : ∀ context scope roots, aftermath = .replace context scope roots →
        Found situation job scope roots)
      (houtward : outward actions =
        (before.subscription.map Action.unsubscribe).toList ++ [.closeClient client.id]) :
      Turn situation before job
        (((before.hold job.id).vacate .stopping context generation).moveJob job.id
          (.closing client.id aftermath)) actions
  /-- A client begins to start. -/
  | launch {actions : List Action} {context : Option ActivationContext} {generation : Nat}
      {scope : Path} {roots : List Root} {folder workspace : Settings}
      (asker : ActivationContext) (hopen : before.Open job.id) (hstill : before.Still)
      (hcontext : context.isSome) (hle : before.generation ≤ generation)
      (hlt : before.generation < generation ∨ job.stage.isBusy = true)
      (hcause : job.stage.isBusy = true ∨ job.errand.opens ∨
        job.stage.recorded? = some before.generation)
      (hfits : job.errand.opens ∨ job.errand = .settle)
      (hfound : Found situation job scope roots)
      (hfolder : situation.settings (some scope) = .ok folder)
      (houtward : outward actions = [.subscribe before.nextClient,
        .openClient ⟨before.nextClient,
          configure situation before.options roots folder workspace⟩ asker]) :
      Turn situation before job
        ({ (before.hold job.id).vacate .starting context generation with
            nextClient := before.nextClient + 1 }.moveJob job.id
          (.opening ⟨before.nextClient,
            configure situation before.options roots folder workspace⟩)) actions
  /-- Everything is stopped, and the job begins its pause. -/
  | pause {actions : List Action} {generation : Nat} (hopen : before.Open job.id)
      (hstill : before.Still) (hle : before.generation ≤ generation)
      (hlt : before.generation < generation ∨ job.stage.isBusy = true)
      (herrand : job.errand = .settle) (hstage : job.stage.recorded? = none)
      (hserver : .stopServer ∈ actions) (houtward : outward actions = []) :
      Turn situation before job
        (((before.hold job.id).vacate .idle before.context generation).release.moveJob job.id
          (.settling generation (situation.now + before.options.settleMs))) actions
  /-- The job ends, and nothing runs. -/
  | fall {actions : List Action} {outcome : Outcome} {context : Option ActivationContext}
      {generation : Nat} (hopen : before.Open job.id) (hle : before.generation ≤ generation)
      (hcause : job.stage.isBusy = true ∨ job.errand.isExplicit = true ∨
        job.stage.recorded? = some before.generation)
      (hcontext : before.context.isSome → context.isSome)
      (houtward : (before.Still ∧ outward actions = []) ∨ ∃ client, job.stage = .opening client ∧
        outward actions = [.unsubscribe client.id, .dropClient client.id])
      (hfinish : .finish job.id outcome ∈ actions)
      (hstop : job.errand = .stop →
        before.generation < generation ∨ job.stage.isBusy = true) :
      Turn situation before job
        (((before.hold job.id).vacate .idle context generation).retire job.id) actions
  /-- The job ends, and the client that it started runs. -/
  | rise {actions : List Action} {outcome : Outcome} {client : Client}
      (hopen : before.Open job.id) (hstage : job.stage = .opening client)
      (houtward : outward actions = []) (hfinish : .finish job.id outcome ∈ actions) :
      Turn situation before job
        ({ before.hold job.id with
            state := .running
            client := some client
            subscription := some client.id }.retire job.id) actions

/-- A turn, with what all turns have in common. -/
def Arrives (situation : Situation) (before : Controller) (job : Job)
    (result : Controller × List Action) : Prop :=
  Course before job result.2 result.1 ∧ Turn situation before job result.1 result.2

end NplLifecycle.Controller
