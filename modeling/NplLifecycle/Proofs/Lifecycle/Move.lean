import NplLifecycle.Proofs.Run
import NplLifecycle.Proofs.Controller.Sound
import NplLifecycle.Proofs.Session.Quiet
import NplLifecycle.Lifecycle.Basic

/-!
# Moves of a lifecycle

Whatever happens to a lifecycle is a move: somebody calls, a task gets on, a change is announced, or
a connection that was asked for comes.  A run is any list of moves that can be made, so it
stands for every order in which a scheduler, a host and a network may act.
-/

namespace NplLifecycle

open Controller (Action Errand)

namespace Lifecycle

inductive Move where
  /-- Somebody wants something of the controller. -/
  | call (errand : Errand)
  | task (around : Surroundings) (task : Task)
  /-- A change is announced to listeners that keep so many unread. -/
  | announce (capacity : Nat) (change : SettingsChange)
  | supply (client : ClientId) (asker : Session.Asker)
      (result : Except (List String) ConnectionId)

/-- Makes a move.  Only listeners begin restarts after a change. -/
def next? (lifecycle : Lifecycle) : Move → Option (Lifecycle × List Effect)
  | .call errand =>
    if errand = .settle then none
    else some ({ lifecycle with controller := (lifecycle.controller.begin errand).1 }, [])
  | .task around task => lifecycle.step around task
  | .announce capacity change => some (lifecycle.announce capacity change, [])
  | .supply client asker result =>
    if (lifecycle.sessions.lookup client).any (·.awaits asker) then
      some (lifecycle.supply client asker result)
    else none

def Effect.action? : Effect → Option Action
  | .control action => some action
  | _ => none

def controls (effects : List Effect) : List Action :=
  effects.filterMap Effect.action?

def entered (effects : List Effect) : List LifecycleState :=
  Controller.entries (controls effects)

@[simp]
theorem controls_nil : controls [] = [] := rfl

@[simp]
theorem controls_append (early late : List Effect) :
    controls (early ++ late) = controls early ++ controls late :=
  List.filterMap_append

@[simp]
theorem controls_cons (action : Action) (rest : List Effect) :
    controls (.control action :: rest) = action :: controls rest := rfl

@[simp]
theorem controls_log (line : LogLine) (rest : List Effect) :
    controls (.log line :: rest) = controls rest := rfl

@[simp]
theorem controls_map_log (lines : List LogLine) : controls (lines.map .log) = [] := by
  simp [controls, Effect.action?]

@[simp]
theorem controls_map_session (client : ClientId) (effects : List Session.Effect) :
    controls (effects.map (.session client)) = [] := by
  simp [controls, Effect.action?]

theorem mem_controls {action : Action} {effects : List Effect} :
    action ∈ controls effects ↔ .control action ∈ effects := by
  rw [controls, List.mem_filterMap]
  constructor
  · rintro ⟨found, hmem, haction⟩
    cases found with
    | control made => rwa [← Option.some.inj haction]
    | session client effect => simp [Effect.action?] at haction
    | log line => simp [Effect.action?] at haction
  · exact fun hmem => ⟨_, hmem, rfl⟩

@[simp]
theorem entered_nil : entered [] = [] := rfl

@[simp]
theorem entered_append (early late : List Effect) :
    entered (early ++ late) = entered early ++ entered late := by
  simp [entered]

def attend (listeners : List (ClientId × Inbox)) : Action → List (ClientId × Inbox)
  | .subscribe client => assign client .empty listeners
  | .unsubscribe client => listeners.filter (·.1 ≠ client)
  | _ => listeners

theorem foldl_attend_outward (actions : List Action) (listeners : List (ClientId × Inbox)) :
    actions.foldl attend listeners = (Controller.outward actions).foldl attend listeners := by
  induction actions generalizing listeners with
  | nil => rfl
  | cons action rest ih =>
      cases action <;> simp [attend, ih]

section Performing

variable (around : Surroundings) (lifecycle : Lifecycle)

@[simp]
theorem absorb_controller (client : ClientId) (outcome : Session × List Session.Effect) :
    (lifecycle.absorb client outcome).1.controller = lifecycle.controller := rfl

@[simp]
theorem absorb_listeners (client : ClientId) (outcome : Session × List Session.Effect) :
    (lifecycle.absorb client outcome).1.listeners = lifecycle.listeners := rfl

@[simp]
theorem controls_absorb (client : ClientId) (outcome : Session × List Session.Effect) :
    controls (lifecycle.absorb client outcome).2 = [] :=
  controls_map_session client outcome.2

/-- What a session does leaves the controller and the listeners alone. -/
theorem withSession_frame (client : ClientId) (change : Session → Session × List Session.Effect) :
    (lifecycle.withSession client change).1.controller = lifecycle.controller ∧
      (lifecycle.withSession client change).1.listeners = lifecycle.listeners ∧
      controls (lifecycle.withSession client change).2 = [] := by
  cases hsession : lifecycle.sessions.lookup client with
  | none => simp [withSession, hsession]
  | some session => simp [withSession, hsession]

theorem perform_frame (action : Action) :
    (lifecycle.perform around action).1.controller = lifecycle.controller ∧
      (lifecycle.perform around action).1.listeners = attend lifecycle.listeners action ∧
      controls (lifecycle.perform around action).2 = [action] := by
  have hclose := fun client => lifecycle.withSession_frame client
    (·.beginStop around.session)
  have hdrop := fun client => lifecycle.withSession_frame client (·.abandon)
  cases action <;> simp [perform, attend, hclose, hdrop]

/-- Doing what the controller wants leaves the controller alone. -/
theorem performAll_frame (actions : List Action) :
    (lifecycle.performAll around actions).1.controller = lifecycle.controller ∧
      (lifecycle.performAll around actions).1.listeners =
        actions.foldl attend lifecycle.listeners ∧
      controls (lifecycle.performAll around actions).2 = actions := by
  induction actions generalizing lifecycle with
  | nil => exact ⟨rfl, rfl, rfl⟩
  | cons action rest ih =>
      obtain ⟨hcontroller, hlisteners, hcontrols⟩ :=
        lifecycle.perform_frame around action
      obtain ⟨hrest_controller, hrest_listeners, hrest_controls⟩ :=
        ih (lifecycle.perform around action).1
      refine ⟨hrest_controller.trans hcontroller, ?_, ?_⟩
      · rw [List.foldl_cons, ← hlisteners]
        exact hrest_listeners
      · simp only [performAll, controls_append, hcontrols, hrest_controls]
        rfl

/-- What the controller wants done is done, and nothing else becomes of the controller. -/
theorem obey_frame (outcome : Controller × List Action) :
    (lifecycle.obey around outcome).1.controller = outcome.1 ∧
      controls (lifecycle.obey around outcome).2 = outcome.2 :=
  ⟨(performAll_frame ..).1, (performAll_frame ..).2.2⟩

end Performing

/-- What a job does in a move of its own: it lets the client get on that it waits for, or the
controller gets on, by itself or at what the client has reported. -/
inductive Works (before : Lifecycle) (around : Surroundings) (id : JobId) (after : Lifecycle)
    (effects : List Effect) : Prop
  | lets {client : ClientId} {session : Session} {outcome : Session × List Session.Effect}
      (hawaited : before.controller.awaited? id = some client)
      (hreport : before.reports.lookup client = none)
      (hsession : before.sessions.lookup client = some session)
      (hcall : session.step around.session .call = some outcome)
      (hafter : before.absorb client outcome = (after, effects)) :
      Works before around id after effects
  | steps (hawaited : before.controller.awaited? id = none)
      (hstep : before.controller.step around.situation id =
        some (after.controller, controls effects))
      (hperformed : performAll around { before with controller := after.controller }
        (controls effects) = (after, effects)) : Works before around id after effects
  | stopped {client : ClientId} {result : Except ClientError Unit}
      (hawaited : before.controller.awaited? id = some client)
      (hreport : before.reports.lookup client = some (.stopped result))
      (hstep : before.controller.clientStopped around.situation id result =
        some (after.controller, controls effects))
      (hperformed : performAll around { before with
        controller := after.controller
        reports := before.reports.filter (·.1 ≠ client) } (controls effects) =
          (after, effects)) : Works before around id after effects
  | started {client : ClientId} {result : Except ClientError Unit}
      (hawaited : before.controller.awaited? id = some client)
      (hreport : before.reports.lookup client = some (.started result))
      (hstep : before.controller.clientStarted id result =
        some (after.controller, controls effects))
      (hperformed : performAll around { before with
        controller := after.controller
        reports := before.reports.filter (·.1 ≠ client) } (controls effects) =
          (after, effects)) : Works before around id after effects

section Working

variable {around : Surroundings} {before after : Lifecycle} {effects : List Effect}

theorem performAll_of_obey {reports : List (ClientId × Report)}
    {outcome : Controller × List Action}
    (hobey : obey around { before with reports := reports } outcome = (after, effects)) :
    outcome = (after.controller, controls effects) ∧
      performAll around { before with controller := after.controller, reports := reports }
        (controls effects) = (after, effects) := by
  obtain ⟨hcontroller, hcontrols⟩ := obey_frame around { before with reports := reports } outcome
  rw [hobey] at hcontroller hcontrols
  rw [hcontroller, hcontrols]
  exact ⟨rfl, hobey⟩

theorem works_of_stepJob {id : JobId} (hstep : before.stepJob around id = some (after, effects)) :
    Works before around id after effects := by
  unfold stepJob at hstep
  cases hawaited : before.controller.awaited? id with
  | none =>
      simp only [hawaited, Option.map_eq_some_iff] at hstep
      obtain ⟨outcome, hstep, hobey⟩ := hstep
      obtain ⟨rfl, hperformed⟩ := performAll_of_obey hobey
      exact .steps hawaited hstep hperformed
  | some client =>
      simp only [hawaited] at hstep
      cases hreport : before.reports.lookup client with
      | none =>
          simp only [hreport, Option.map_eq_some_iff, Option.bind_eq_some_iff] at hstep
          obtain ⟨outcome, ⟨session, hsession, hcall⟩, hafter⟩ := hstep
          exact .lets hawaited hreport hsession hcall hafter
      | some report =>
          cases report with
          | stopped result =>
              simp only [hreport, Option.map_eq_some_iff] at hstep
              obtain ⟨outcome, hstopped, hobey⟩ := hstep
              obtain ⟨rfl, hperformed⟩ := performAll_of_obey hobey
              exact .stopped hawaited hreport hstopped hperformed
          | started result =>
              simp only [hreport, Option.map_eq_some_iff] at hstep
              obtain ⟨outcome, hstarted, hobey⟩ := hstep
              obtain ⟨rfl, hperformed⟩ := performAll_of_obey hobey
              exact .started hawaited hreport hstarted hperformed

end Working

/-- Does a report say that a session is over: a stop has ended, or a start has failed? -/
def Report.isEnd : Report → Bool
  | .stopped _ | .started (.error _) => true
  | .started (.ok _) => false

/-- The reports that are left when a job has gone on to another controller: all, or all but those
on the client that it waited for. -/
structure Heeds (before : Lifecycle) (id : JobId) (after : Controller)
    (reports : List (ClientId × Report)) : Prop where
  mem : ∀ entry ∈ reports, entry ∈ before.reports
  awaited : ∀ client, before.controller.awaited? id = some client →
    (∀ report, (client, report) ∉ reports) ∧ ∃ report, (client, report) ∈ before.reports ∧
      (report.isEnd = true ∨ after.client.map Controller.Client.id = some client)

/-- What a move does to the controller, the listeners and the sessions. -/
inductive Advance (before : Lifecycle) : Move → Lifecycle → List Effect → Prop
  /-- Only sessions get on, be it that a job lets its client get on. -/
  | rest {move : Move} {after : Lifecycle} {effects : List Effect}
      (hawaits : ∀ around id, move = .task around (.job id) →
        (before.controller.awaited? id).isSome)
      (hcontroller : after.controller = before.controller)
      (hlisteners : after.listeners = before.listeners) (hcontrols : controls effects = [])
      (hsession : ∃ client session outcome, before.sessions.lookup client = some session ∧
        Session.Evolves session outcome ∧ before.absorb client outcome = (after, effects)) :
      Advance before move after effects
  | call {errand : Errand} (herrand : errand ≠ .settle) :
      Advance before (.call errand)
        { before with controller := (before.controller.begin errand).1 } []
  | announce {capacity : Nat} {change : SettingsChange} :
      Advance before (.announce capacity change) (before.announce capacity change) []
  /-- A job gets on. -/
  | turn {around : Surroundings} {id : JobId} {job : Controller.Job} {after : Lifecycle}
      {effects : List Effect} (hjob : before.controller.job? id = some job)
      (harrives : Controller.Arrives around.situation before.controller job
        (after.controller, controls effects))
      (hlisteners : after.listeners =
        (Controller.outward (controls effects)).foldl attend before.listeners)
      (hperformed : ∃ reports, Heeds before id after.controller reports ∧
        performAll around { before with controller := after.controller, reports := reports }
          (controls effects) = (after, effects)) :
      Advance before (.task around (.job id)) after effects
  /-- A listener reads. -/
  | read {around : Surroundings} {client : ClientId} {inbox rest : Inbox}
      {reading : Inbox.Reading} (hinbox : before.listeners.lookup client = some inbox)
      (hnext : inbox.next? = some (reading, rest)) :
      Advance before (.task around (.listener client))
        ({ before with listeners := assign client rest before.listeners }.react reading).1
        ({ before with listeners := assign client rest before.listeners }.react reading).2
  /-- A listener ends that nothing can reach any more. -/
  | hush {around : Surroundings} {client : ClientId} {inbox : Inbox}
      (hclosed : around.channelIsOpen = false)
      (hinbox : before.listeners.lookup client = some inbox) (hnext : inbox.next? = none) :
      Advance before (.task around (.listener client))
        { before with listeners := before.listeners.filter (·.1 ≠ client) } []

section Advancing

variable {around : Surroundings} {before after : Lifecycle} {effects : List Effect}

theorem advance_of_performed {id : JobId} {job : Controller.Job}
    {reports : List (ClientId × Report)} (hjob : before.controller.job? id = some job)
    (harrives : Controller.Arrives around.situation before.controller job
      (after.controller, controls effects))
    (hheeds : Heeds before id after.controller reports)
    (hperformed : performAll around { before with
      controller := after.controller, reports := reports } (controls effects) =
        (after, effects)) : Advance before (.task around (.job id)) after effects := by
  obtain ⟨-, hlisteners, -⟩ := performAll_frame around { before with
    controller := after.controller, reports := reports } (controls effects)
  rw [hperformed, foldl_attend_outward] at hlisteners
  exact .turn hjob harrives hlisteners ⟨reports, hheeds, hperformed⟩

theorem advance_of_absorb {move : Move} {client : ClientId} {session : Session}
    {outcome : Session × List Session.Effect}
    (hawaits : ∀ around id, move = .task around (.job id) →
      (before.controller.awaited? id).isSome)
    (hsession : before.sessions.lookup client = some session)
    (hevolves : Session.Evolves session outcome)
    (hafter : before.absorb client outcome = (after, effects)) :
    Advance before move after effects := by
  have hcontroller := absorb_controller before client outcome
  have hlisteners := absorb_listeners before client outcome
  have hcontrols := controls_absorb before client outcome
  rw [hafter] at hcontroller hlisteners hcontrols
  exact .rest hawaits hcontroller hlisteners hcontrols
    ⟨client, session, outcome, hsession, hevolves, hafter⟩

theorem advance_of_stepSession {move : Move} {client : ClientId} {task : Session.Task}
    (hawaits : ∀ around id, move = .task around (.job id) →
      (before.controller.awaited? id).isSome)
    (hafter : ((before.sessions.lookup client).bind (·.step around.session task)).map
      (before.absorb client) = some (after, effects)) :
    Advance before move after effects := by
  obtain ⟨outcome, hfound, habsorb⟩ := Option.map_eq_some_iff.mp hafter
  obtain ⟨session, hsession, hstep⟩ := Option.bind_eq_some_iff.mp hfound
  exact advance_of_absorb hawaits hsession (Or.inl ⟨around.session, task, hstep⟩) habsorb

/-- A job that waits for no client leaves the reports alone. -/
theorem heeds_of_free {id : JobId} {next : Controller}
    (hawaited : before.controller.awaited? id = none) : Heeds before id next before.reports := by
  refine ⟨fun _ hmem => hmem, ?_⟩
  intro client hclient
  rw [hawaited] at hclient
  exact absurd hclient (by simp)

theorem heeds_of_report {id : JobId} {next : Controller} {client : ClientId} {report : Report}
    (hawaited : before.controller.awaited? id = some client)
    (hreport : before.reports.lookup client = some report)
    (hend : report.isEnd = true ∨ next.client.map Controller.Client.id = some client) :
    Heeds before id next (before.reports.filter (·.1 ≠ client)) := by
  refine ⟨fun entry hmem => (List.mem_filter.mp hmem).1, ?_⟩
  intro other hother
  rw [hawaited] at hother
  rw [← Option.some.inj hother]
  obtain ⟨early, late, hreports, -⟩ := List.lookup_eq_some_iff.mp hreport
  refine ⟨?_, report, ?_, hend⟩
  · intro report hmem
    simp at hmem
  · rw [hreports]
    simp

/-- A start that is over has ended the session, or its client is the controller's. -/
theorem client_of_started {controller : Controller} {id : JobId} {client : ClientId}
    {result : Except ClientError Unit} {outcome : Controller × List Action}
    (hawaited : controller.awaited? id = some client)
    (hafter : controller.clientStarted id result = some outcome) :
    (Report.started result).isEnd = true ∨
      outcome.1.client.map Controller.Client.id = some client := by
  cases result with
  | error failure => exact Or.inl rfl
  | ok done =>
      right
      obtain ⟨job, hjob, hfound⟩ := Option.bind_eq_some_iff.mp hafter
      simp only [Controller.awaited?, hjob, Option.bind_some] at hawaited
      cases hstage : job.stage with
      | opening opened =>
          simp only [hstage, Option.some.injEq] at hfound hawaited
          rw [← hfound, ← hawaited]
          rfl
      | arriving => simp [hstage] at hfound
      | inLine => simp [hstage] at hfound
      | closing closed aftermath => simp [hstage] at hfound
      | settling generation wake => simp [hstage] at hfound
      | returning generation => simp [hstage] at hfound

theorem advance_of_stepJob (hsound : before.controller.Sound) {id : JobId}
    (hafter : before.stepJob around id = some (after, effects)) :
    Advance before (.task around (.job id)) after effects := by
  cases works_of_stepJob hafter with
  | lets hawaited hreport hsession hcall hafter =>
      refine advance_of_absorb ?_ hsession (Or.inl ⟨around.session, .call, hcall⟩) hafter
      intro _ _ hsame
      simp only [Move.task.injEq, Task.job.injEq] at hsame
      rw [← hsame.2, hawaited]
      rfl
  | steps hawaited hstep hperformed =>
      obtain ⟨job, hjob, harrives⟩ := hsound.arrives hstep
      exact advance_of_performed hjob harrives (heeds_of_free hawaited) hperformed
  | stopped hawaited hreport hstep hperformed =>
      obtain ⟨job, hjob, harrives⟩ := hsound.arrives_stopped hstep
      exact advance_of_performed hjob harrives
        (heeds_of_report hawaited hreport (Or.inl rfl)) hperformed
  | started hawaited hreport hstep hperformed =>
      obtain ⟨job, hjob, harrives⟩ := hsound.arrives_started hstep
      exact advance_of_performed hjob harrives
        (heeds_of_report hawaited hreport (client_of_started hawaited hstep)) hperformed

theorem advance_of_stepListener {client : ClientId}
    (hafter : before.stepListener around client = some (after, effects)) :
    Advance before (.task around (.listener client)) after effects := by
  obtain ⟨inbox, hinbox, hafter⟩ := Option.bind_eq_some_iff.mp hafter
  cases hnext : inbox.next? with
  | some found =>
      simp only [hnext, Option.some.injEq] at hafter
      have hread : Advance before (.task around (.listener client)) _ _ := .read hinbox hnext
      rw [hafter] at hread
      exact hread
  | none =>
      simp only [hnext, Option.ite_none_left_eq_some, Option.some.injEq, Prod.mk.injEq] at hafter
      obtain ⟨hclosed, rfl, rfl⟩ := hafter
      exact .hush (by simpa using hclosed) hinbox hnext

/-- Every move does one of the things listed. -/
theorem advance_of_next? (hsound : before.controller.Sound) {move : Move}
    (hafter : before.next? move = some (after, effects)) : Advance before move after effects := by
  cases move with
  | call errand =>
      simp only [next?, Option.ite_none_left_eq_some, Option.some.injEq, Prod.mk.injEq] at hafter
      obtain ⟨herrand, rfl, rfl⟩ := hafter
      exact .call herrand
  | task around task =>
      cases task with
      | job id => exact advance_of_stepJob hsound hafter
      | session client task => exact advance_of_stepSession (by simp) hafter
      | listener client => exact advance_of_stepListener hafter
  | announce capacity change =>
      simp only [next?, Option.some.injEq, Prod.mk.injEq] at hafter
      obtain ⟨rfl, rfl⟩ := hafter
      exact .announce
  | supply client asker result =>
      simp only [next?, Option.ite_none_right_eq_some, Option.some.injEq] at hafter
      obtain ⟨hawaits, hafter⟩ := hafter
      obtain ⟨session, hsession, hasked⟩ := (Option.any_eq_true _ _).mp hawaits
      have hsupplied : before.absorb client (session.supply asker result) = (after, effects) := by
        simpa [Lifecycle.supply, withSession, hsession] using hafter
      exact advance_of_absorb (by simp) hsession (Or.inr ⟨asker, result, hasked, rfl⟩) hsupplied

end Advancing

end Lifecycle

end NplLifecycle
