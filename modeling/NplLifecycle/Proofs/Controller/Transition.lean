import Mathlib.Tactic.Tauto
import NplLifecycle.Controller.Step

/-!
# Transitions of the state cell

The controller writes its state at several places, each on the way through an errand.  Which
states may follow each other is one relation, and the states that a list of actions enters form a
path through it.
-/

namespace NplLifecycle

/-- The second state may be entered from the first. -/
inductive LifecycleState.Follows : LifecycleState → LifecycleState → Prop
  | start : Follows .idle .starting
  | started : Follows .starting .running
  | startFailed : Follows .starting .idle
  | stopRunning : Follows .running .stopping
  | stopIdle : Follows .idle .stopping
  | stopped : Follows .stopping .idle

/-- States entered one after the other lead from one state to another, each by a transition that
may follow. -/
def LifecycleState.Leads : LifecycleState → List LifecycleState → LifecycleState → Prop
  | first, [], last => first = last
  | first, next :: rest, last => first.Follows next ∧ Leads next rest last

theorem LifecycleState.Leads.append {first middle last : LifecycleState}
    {early late : List LifecycleState} (hearly : first.Leads early middle)
    (hlate : middle.Leads late last) : first.Leads (early ++ late) last := by
  induction early generalizing first with
  | nil =>
      have hsame : first = middle := hearly
      rw [hsame]
      exact hlate
  | cons next rest ih => exact ⟨hearly.1, ih hearly.2⟩

namespace Controller

def Action.entered? : Action → Option LifecycleState
  | .enter state => some state
  | _ => none

/-- Does an action touch a session or a listener? -/
def Action.isOutward : Action → Bool
  | .subscribe _ | .unsubscribe _ | .openClient .. | .closeClient _ | .dropClient _ => true
  | _ => false

def entries (actions : List Action) : List LifecycleState :=
  actions.filterMap Action.entered?

/-- The actions that touch sessions and listeners, in order. -/
def outward (actions : List Action) : List Action :=
  actions.filter Action.isOutward

@[simp]
theorem entries_nil : entries [] = [] := rfl

@[simp]
theorem entries_cons (action : Action) (rest : List Action) :
    entries (action :: rest) = action.entered?.toList ++ entries rest := by
  cases h : action.entered? <;> simp [entries, h]

@[simp]
theorem entries_append (left right : List Action) :
    entries (left ++ right) = entries left ++ entries right :=
  List.filterMap_append

@[simp]
theorem entries_map_log (lines : List LogLine) : entries (lines.map Action.log) = [] := by
  simp [entries, Action.entered?]

@[simp]
theorem outward_nil : outward [] = [] := rfl

@[simp]
theorem outward_cons (action : Action) (rest : List Action) :
    outward (action :: rest) =
      (if action.isOutward then [action] else []) ++ outward rest := by
  cases h : action.isOutward <;> simp [outward, h]

@[simp]
theorem outward_append (left right : List Action) :
    outward (left ++ right) = outward left ++ outward right :=
  List.filter_append ..

@[simp]
theorem outward_map_log (lines : List LogLine) : outward (lines.map Action.log) = [] := by
  simp [outward, Action.isOutward]

attribute [simp] Action.entered? Action.isOutward

/-- A stop, and a start that found a root, shows in the states that it enters. -/
def Touches (states : List LifecycleState) : Prop :=
  .stopping ∈ states ∨ .starting ∈ states

theorem touches_append {early late : List LifecycleState} :
    Touches (early ++ late) ↔ Touches early ∨ Touches late := by
  simp only [Touches, List.mem_append]
  tauto

@[simp]
theorem not_touches_nil : ¬ Touches [] := by
  simp [Touches]

@[simp]
theorem entries_announceSettled (result : Except ClientError Unit) :
    entries (announceSettled result) = [] := by
  cases result <;> simp [announceSettled]

@[simp]
theorem outward_announceSettled (result : Except ClientError Unit) :
    outward (announceSettled result) = [] := by
  cases result <;> simp [announceSettled]

@[simp]
theorem entries_warnUnclean (opening : String) (result : Except ClientError Unit) :
    entries (warnUnclean opening result) = [] := by
  cases result <;> simp [warnUnclean]

@[simp]
theorem outward_warnUnclean (opening : String) (result : Except ClientError Unit) :
    outward (warnUnclean opening result) = [] := by
  cases result <;> simp [warnUnclean]

/-- What a controller is once a job that held the lock has ended. -/
def retire (controller : Controller) (id : JobId) : Controller :=
  { controller with jobs := controller.jobs.filter (·.id ≠ id) }.release

def hold (controller : Controller) (id : JobId) : Controller :=
  { controller with holder := some id }

def vacate (controller : Controller) (state : LifecycleState) (context : Option ActivationContext)
    (generation : Nat) : Controller :=
  { controller with
    state := state
    client := none
    subscription := none
    context := context
    generation := generation }

theorem finish_eq (controller : Controller) (id : JobId) (outcome : Outcome) :
    controller.finish id outcome = (controller.retire id, [.finish id outcome]) := rfl

theorem finishStart_fst (controller : Controller) (job : Job) (result : Except ClientError Unit) :
    (controller.finishStart job result).1 = controller.retire job.id := rfl

@[simp]
theorem entries_finishStart (controller : Controller) (job : Job)
    (result : Except ClientError Unit) : entries (controller.finishStart job result).2 = [] := by
  cases herrand : job.errand <;> simp [finishStart, finish_eq, herrand]

@[simp]
theorem outward_finishStart (controller : Controller) (job : Job)
    (result : Except ClientError Unit) : outward (controller.finishStart job result).2 = [] := by
  cases herrand : job.errand <;> simp [finishStart, finish_eq, herrand]

theorem finish_mem_finishStart (controller : Controller) (job : Job)
    (result : Except ClientError Unit) :
    .finish job.id (.done result) ∈ (controller.finishStart job result).2 := by
  cases herrand : job.errand <;> simp [finishStart, finish_eq, herrand]

end Controller

end NplLifecycle
