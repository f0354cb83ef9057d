import NplLifecycle.Proofs.Controller.Starting
import NplLifecycle.Proofs.Controller.Waiting

/-!
# What a restart does

Nobody waits for a restart after a change of the settings, so the restart itself tells the user how
it went.  Besides that, it makes at most one client.  What it does of this in each of its steps is
listed here, and where it is then.
-/

namespace NplLifecycle.Controller

/-- Does an action tell the user something, make a client or end a job? -/
def Action.isOvert : Action → Bool
  | .showInfo _ | .showError _ | .openClient .. | .finish .. => true
  | _ => false

/-- The actions that tell the user something, make clients or end jobs, in order. -/
def overt (actions : List Action) : List Action :=
  actions.filter Action.isOvert

/-- A client is built from what a host says at a moment: from its roots, and from the settings of
the first of them and of the whole workspace. -/
def Situation.Builds (situation : Situation) (options : Options) (client : Client) : Prop :=
  ∃ first folder workspace, situation.roots.head? = some first ∧
    situation.settings (some first.path) = .ok folder ∧
    situation.settings none = .ok workspace ∧
    client.configuration = configure situation options situation.roots folder workspace

section Overt

@[simp]
theorem overt_nil : overt [] = [] := rfl

@[simp]
theorem overt_cons (action : Action) (rest : List Action) :
    overt (action :: rest) = (if action.isOvert then [action] else []) ++ overt rest := by
  cases h : action.isOvert <;> simp [overt, h]

@[simp]
theorem overt_append (left right : List Action) :
    overt (left ++ right) = overt left ++ overt right :=
  List.filter_append ..

@[simp]
theorem overt_map_log (lines : List LogLine) : overt (lines.map Action.log) = [] := by
  simp [overt, Action.isOvert]

variable {controller : Controller} {job : Job}

theorem overt_finishStart_ok (herrand : job.errand = .settle) :
    overt (controller.finishStart job (.ok ())).2 =
      [.showInfo "NPL Language Server restarted with updated workspace settings.",
        .finish job.id (.done (.ok ()))] := by
  simp [finishStart, herrand, announceSettled, finish_eq, Action.isOvert]

theorem overt_finishStart_error (herrand : job.errand = .settle) (failure : ClientError) :
    overt (controller.finishStart job (.error failure)).2 =
      [.showError
          "Failed to restart NPL Language Server. You may need to reload the window.",
        .finish job.id (.done (.error failure))] := by
  simp [finishStart, herrand, announceSettled, finish_eq, Action.isOvert]

/-- Whoever listens, it is not overt that they stop listening. -/
theorem overt_unsubscribe (subscription : Option ClientId) :
    overt (subscription.map Action.unsubscribe).toList = [] := by
  cases subscription <;> simp [Action.isOvert]

end Overt

/-- No turn changes the options. -/
theorem Turn.options {situation : Situation} {before after : Controller} {job : Job}
    {actions : List Action} (hturn : Turn situation before job after actions) :
    after.options = before.options := by
  cases hturn <;> rfl

section Stopping

variable {situation : Situation} {before : Controller} {job : Job}
  {outcome : Controller × List Action} {client : ClientId}

/-- A restart that gets the lock closes the client, or begins its pause if there is none. -/
theorem Sound.run_of_settle (hsound : before.Sound) (hmem : job ∈ before.jobs)
    (herrand : job.errand = .settle) (hopen : before.Open job.id)
    (hidle : job.stage.isBusy = false) :
    let outcome := (before.hold job.id).run situation job
    overt outcome.2 = [] ∧
      ((∃ client, .closeClient client ∈ outcome.2 ∧
          { job with stage := .closing client .settle } ∈ outcome.1.jobs) ∨
        ∃ generation, { job with
          stage := .settling generation (situation.now + before.options.settleMs) } ∈
            outcome.1.jobs) := by
  have hmoved (stage : Stage) : { job with stage := stage } ∈ (before.moveJob job.id stage).jobs :=
    mem_moveJob_self hmem
  rw [herrand] at hmoved
  rcases hsound.rested hopen (hsound.orderly.job?_of_mem hmem) hidle with
    ⟨client, -, hclient, -⟩ | ⟨-, hnobody, -⟩
  · simp only [Controller.run, herrand, runStop, hold, hclient, enterStop, enter, unsubscribe]
    refine ⟨?_, .inl ⟨client.id, by simp, hmoved _⟩⟩
    simp [overt_unsubscribe, Action.isOvert]
  · simp only [Controller.run, herrand, runStop, hold, hnobody, enterStop, enter, unsubscribe,
      concludeStop, afterStop]
    refine ⟨?_, .inr ⟨before.generation + 1, hmoved _⟩⟩
    simp [overt_unsubscribe, Action.isOvert]

/-- A restart whose client has stopped begins its pause; one whose client could not be stopped well
ends, and tells nobody. -/
theorem clientStopped_of_settle (hjob : before.job? job.id = some job)
    (hstage : job.stage = .closing client .settle) {result : Except ClientError Unit}
    (hstopped : before.clientStopped situation job.id result = some outcome) :
    (overt outcome.2 = [] ∧ ∃ generation, { job with
        stage := .settling generation (situation.now + before.options.settleMs) } ∈
          outcome.1.jobs) ∨
      ∃ failure, result = .error failure ∧
        overt outcome.2 = [.finish job.id (.done (.error failure))] ∧
        ∀ other ∈ outcome.1.jobs, other.id ≠ job.id := by
  have hmem : job ∈ before.jobs := (mem_of_job? hjob).1
  simp only [Controller.clientStopped, hjob, Option.bind_some, hstage, Option.some.injEq]
    at hstopped
  rw [← hstopped]
  cases result with
  | ok done =>
      simp only [concludeStop, enter, afterStop]
      exact .inl ⟨by simp [Action.isOvert], _, mem_moveJob_self hmem⟩
  | error failure =>
      simp only [concludeStop, enter, afterStop, finish_eq]
      exact .inr ⟨failure, rfl, by simp [Action.isOvert], fun other hother =>
        (mem_retire.mp hother).2⟩

end Stopping

section Starting

variable {situation : Situation} {controller before : Controller} {job : Job}
  {outcome : Controller × List Action} {context : ActivationContext} {first : Root}

/-- A restart makes a client from the settings that it reads, or fails and says so. -/
theorem continueStart_of_settle (herrand : job.errand = .settle) (hmem : job ∈ controller.jobs)
    (hhead : situation.roots.head? = some first) :
    let outcome := controller.continueStart situation job context first.path situation.roots
    (outcome.1 = { controller with state := .idle }.retire job.id ∧ ∃ failure, overt outcome.2 =
        [.showError "Failed to restart NPL Language Server. You may need to reload the window.",
          .finish job.id (.done (.error failure))]) ∨
      ∃ client, situation.Builds controller.options client ∧
        overt outcome.2 = [.openClient client context] ∧
        { job with stage := .opening client } ∈ outcome.1.jobs := by
  cases hfolder : situation.settings (some first.path) with
  | error cause =>
      simp only [continueStart, hfolder, enter]
      refine .inl ⟨finishStart_fst .., .settings cause, ?_⟩
      simp [overt_finishStart_error herrand, Action.isOvert]
  | ok folder =>
      cases hworkspace : situation.settings none with
      | error cause =>
          simp only [continueStart, hfolder, hworkspace, enter]
          refine .inl ⟨finishStart_fst .., .settings cause, ?_⟩
          simp [overt_finishStart_error herrand, Action.isOvert]
      | ok workspace =>
          simp only [continueStart, hfolder, hworkspace, enter]
          refine .inr ⟨⟨controller.nextClient, configure situation controller.options
            situation.roots folder workspace⟩, ?_, by simp [Action.isOvert], ?_⟩
          · exact ⟨first, folder, workspace, hhead, hfolder, hworkspace, rfl⟩
          · exact mem_moveJob_self hmem

/-- A restart that goes on after its pause makes a client from the settings that it reads then, or
fails and says so, and nothing runs. -/
theorem runStart_of_settle (hmem : job ∈ before.jobs) (herrand : job.errand = .settle)
    (hvacant : before.Vacant .idle) :
    let outcome := (before.hold job.id).runStart situation job context
    (outcome.1.Vacant .idle ∧ (∀ other ∈ outcome.1.jobs, other.id ≠ job.id) ∧
        ∃ failure, overt outcome.2 =
          [.showError "Failed to restart NPL Language Server. You may need to reload the window.",
            .finish job.id (.done (.error failure))]) ∨
      ∃ client, situation.Builds before.options client ∧
        overt outcome.2 = [.openClient client context] ∧
        { job with stage := .opening client } ∈ outcome.1.jobs := by
  intro outcome
  have hgone {controller : Controller} (hretired : outcome.1 = controller.retire job.id) :
      ∀ other ∈ outcome.1.jobs, other.id ≠ job.id := by
    rw [hretired]
    exact fun other hother => (mem_retire.mp hother).2
  cases hroots : situation.roots.head? with
  | none =>
      have hfailed : outcome = (before.hold job.id).finishStart job (.error .noWorkspace) := by
        simp only [outcome, runStart, hroots]
      refine .inl ⟨?_, hgone (hfailed ▸ finishStart_fst ..), .noWorkspace, ?_⟩
      · rw [hfailed, finishStart_fst]
        exact hvacant
      · rw [hfailed, overt_finishStart_error herrand]
  | some first =>
      let noted : Controller := { before.hold job.id with
        context := some context, generation := before.generation + 1 }
      have hnobody : (before.hold job.id).client = none := hvacant.2.1
      have hgoes : outcome =
          noted.continueStart situation job context first.path situation.roots := by
        simp only [outcome, runStart, hroots, hnobody]
        rw [← hnobody]
        rfl
      rcases @continueStart_of_settle situation noted job context first herrand hmem hroots with
        ⟨hretired, hsaid⟩ | hopened
      · rw [← hgoes] at hretired hsaid
        refine .inl ⟨?_, hgone hretired, hsaid⟩
        rw [hretired]
        exact ⟨rfl, hvacant.2⟩
      · exact .inr (hgoes ▸ hopened)

/-- A restart whose client has started says that it is done, and the client runs; one whose client
has not started says that it failed, and nothing runs. -/
theorem Sound.clientStarted_of_settle (hsound : before.Sound) (hmem : job ∈ before.jobs)
    (herrand : job.errand = .settle) {client : Client} (hstage : job.stage = .opening client)
    {result : Except ClientError Unit}
    (hstarted : before.clientStarted job.id result = some outcome) :
    (∀ other ∈ outcome.1.jobs, other.id ≠ job.id) ∧
      ((outcome.1.state = .running ∧ outcome.1.client = some client ∧ overt outcome.2 =
          [.showInfo "NPL Language Server restarted with updated workspace settings.",
            .finish job.id (.done (.ok ()))]) ∨
        (outcome.1.Vacant .idle ∧ ∃ failure, overt outcome.2 =
          [.showError "Failed to restart NPL Language Server. You may need to reload the window.",
            .finish job.id (.done (.error failure))])) := by
  cases result with
  | ok done =>
      simp only [Controller.clientStarted, hsound.orderly.job?_of_mem hmem, Option.bind_some,
        hstage, enter, Option.some.injEq] at hstarted
      rw [← hstarted]
      refine ⟨fun other hother => (mem_retire.mp hother).2, .inl ⟨rfl, rfl, ?_⟩⟩
      simp [overt_finishStart_ok herrand, Action.isOvert]
  | error failure =>
      obtain ⟨-, hnobody, hdeaf⟩ := (hsound.ledger.opening job hmem client hstage).1
      simp only [Controller.clientStarted, hsound.orderly.job?_of_mem hmem, Option.bind_some,
        hstage, enter, Option.some.injEq] at hstarted
      rw [← hstarted]
      refine ⟨fun other hother => (mem_retire.mp hother).2,
        .inr ⟨⟨rfl, hnobody, hdeaf⟩, failure, ?_⟩⟩
      simp [overt_finishStart_error herrand, Action.isOvert]

end Starting

end NplLifecycle.Controller
