import NplLifecycle.Proofs.Controller.Waiting

/-!
# What a controller remembers

A controller remembers for whom it started last, from the moment that a start has found a root.  A
restart after a change starts for the same again, so only starts and restarts that somebody called
for change what is remembered.  As soon as there is a restart after a change there is something to
remember, so no such restart ends because it does not know for whom to start.
-/

namespace NplLifecycle.Controller

/-- For whom a job that gets the lock for the first time starts at once, if it does; a restart has
to close the client first, if there is one. -/
def Errand.asker? (errand : Errand) (client : Option Client) : Option ActivationContext :=
  match errand with
  | .start context => some context
  | .restart context => if client.isNone then some context else none
  | .stop | .settle | .inspect => none

/-- For whom a start follows that somebody called for, when a client has been closed. -/
def Aftermath.asker? : Aftermath → Option ActivationContext
  | .start context => some context
  | .finish | .replace .. | .settle => none

/-- For whom a job starts that goes on when its client has been closed, if it was called for. -/
def Stage.asker? : Stage → Option ActivationContext
  | .closing _ aftermath => aftermath.asker?
  | _ => none

/-- For whom a job starts that gets on without waiting for a client, if somebody called for it and
it comes to its start: it gets the lock for the first time. -/
def asker? (controller : Controller) (job : Job) : Option ActivationContext :=
  match job.stage with
  | .arriving => if controller.holder.isNone then job.errand.asker? controller.client else none
  | .inLine =>
    if controller.holder = some job.id then job.errand.asker? controller.client else none
  | _ => none

/-- For whom the last start was, when another has looked for a root. -/
def Situation.remembers (situation : Situation) (asker old : Option ActivationContext) :
    Option ActivationContext :=
  if situation.roots.isEmpty then old else asker.or old

/-- Does an action end a restart that does not know for whom to start? -/
def Action.isLost : Action → Bool
  | .finish _ .contextMissing => true
  | _ => false

section Remembering

variable (situation : Situation) (controller : Controller) (job : Job)

@[simp]
theorem remembers_none (old : Option ActivationContext) :
    situation.remembers none old = old := by
  simp [Situation.remembers]

theorem context_continueStart (asker : ActivationContext) (scope : Path) (roots : List Root) :
    (controller.continueStart situation job asker scope roots).1.context = controller.context := by
  cases hfolder : situation.settings (some scope) with
  | error cause => simp only [continueStart, hfolder, finishStart_fst, enter]; rfl
  | ok folder =>
      cases hworkspace : situation.settings none with
      | error cause => simp only [continueStart, hfolder, hworkspace, finishStart_fst, enter]; rfl
      | ok workspace => simp only [continueStart, hfolder, hworkspace, enter]; rfl

theorem context_runStart (asker : ActivationContext) :
    (controller.runStart situation job asker).1.context =
      situation.remembers (some asker) controller.context := by
  cases hroots : situation.roots with
  | nil =>
      simp only [runStart, hroots, List.head?_nil, finishStart_fst, Situation.remembers,
        List.isEmpty_nil, if_true]
      rfl
  | cons first rest =>
      simp only [runStart, hroots, List.head?_cons, Situation.remembers, List.isEmpty_cons,
        Bool.false_eq_true, if_false, Option.some_or]
      cases hclient : controller.client with
      | none => exact context_continueStart ..
      | some client => rfl

theorem context_afterStop (result : Except ClientError Unit) (aftermath : Aftermath) :
    (controller.afterStop situation job result aftermath).1.context =
      situation.remembers aftermath.asker? controller.context := by
  cases aftermath with
  | finish => simp [afterStop, Aftermath.asker?, finish_eq, retire, release]
  | start asker => exact context_runStart ..
  | replace asker scope roots =>
      rw [Aftermath.asker?, remembers_none]
      exact context_continueStart ..
  | settle =>
      cases result <;> simp [afterStop, Aftermath.asker?, finish_eq, retire, release, moveJob]

theorem context_runStop (aftermath : Aftermath) :
    (controller.runStop situation job aftermath).1.context =
      situation.remembers (if controller.client.isNone then aftermath.asker? else none)
        controller.context := by
  cases hclient : controller.client with
  | none =>
      simp only [runStop, hclient, concludeStop, context_afterStop]
      rfl
  | some client => simp [runStop, hclient, enterStop, enter, unsubscribe, moveJob]

theorem context_run :
    (controller.run situation job).1.context =
      situation.remembers (job.errand.asker? controller.client) controller.context := by
  cases herrand : job.errand with
  | start asker =>
      simp only [run, herrand]
      exact context_runStart ..
  | stop =>
      simp only [run, herrand, context_runStop]
      simp [Aftermath.asker?, Errand.asker?]
  | restart asker =>
      simp only [run, herrand]
      exact context_runStop ..
  | settle =>
      simp only [run, herrand, context_runStop]
      simp [Aftermath.asker?, Errand.asker?]
  | inspect => simp [run, herrand, finish_eq, retire, release, Errand.asker?]

theorem context_resumeSettling (recorded : Nat) :
    (controller.resumeSettling situation job recorded).1.context = controller.context := by
  unfold resumeSettling
  split
  · rfl
  · split
    · rename_i asker hcontext
      simp [context_runStart, Situation.remembers, hcontext]
    · rfl

variable {situation controller job} {outcome : Controller × List Action}
  {result : Except ClientError Unit}

/-- Only a job that comes to its start, and finds a root, changes what is remembered. -/
theorem context_step (hjob : controller.job? job.id = some job)
    (hstep : controller.step situation job.id = some outcome) :
    outcome.1.context = situation.remembers (controller.asker? job) controller.context := by
  simp only [step, hjob, Option.bind_some] at hstep
  cases hstage : job.stage with
  | arriving =>
      cases hholder : controller.holder with
      | none =>
          simp only [hstage, acquire, hholder, Option.some.injEq] at hstep
          rw [← hstep, context_run]
          simp [asker?, hstage, hholder]
      | some holder =>
          simp only [hstage, acquire, hholder, Option.some.injEq] at hstep
          rw [← hstep]
          simp [asker?, hstage, hholder, moveJob]
  | inLine =>
      simp only [hstage, Option.ite_none_right_eq_some, Option.some.injEq] at hstep
      obtain ⟨hholder, rfl⟩ := hstep
      rw [context_run]
      simp [asker?, hstage, hholder]
  | settling generation wake =>
      simp only [hstage, Option.ite_none_left_eq_some] at hstep
      obtain ⟨-, hstep⟩ := hstep
      cases hholder : controller.holder with
      | none =>
          simp only [acquire, hholder, Option.some.injEq] at hstep
          rw [← hstep, context_resumeSettling]
          simp [asker?, hstage]
      | some holder =>
          simp only [acquire, hholder, Option.some.injEq] at hstep
          rw [← hstep]
          simp [asker?, hstage, moveJob]
  | returning generation =>
      simp only [hstage, Option.ite_none_right_eq_some, Option.some.injEq] at hstep
      obtain ⟨-, rfl⟩ := hstep
      rw [context_resumeSettling]
      simp [asker?, hstage]
  | closing client aftermath => simp [hstage] at hstep
  | opening client => simp [hstage] at hstep

theorem context_clientStopped (hjob : controller.job? job.id = some job)
    (hstopped : controller.clientStopped situation job.id result = some outcome) :
    outcome.1.context = situation.remembers job.stage.asker? controller.context := by
  simp only [clientStopped, hjob, Option.bind_some] at hstopped
  cases hstage : job.stage with
  | closing client aftermath =>
      simp only [hstage, Option.some.injEq] at hstopped
      rw [← hstopped]
      exact context_afterStop situation _ job result aftermath
  | _ => simp [hstage] at hstopped

theorem context_clientStarted (hjob : controller.job? job.id = some job)
    (hstarted : controller.clientStarted job.id result = some outcome) :
    outcome.1.context = controller.context ∧ job.stage.asker? = none := by
  simp only [clientStarted, hjob, Option.bind_some] at hstarted
  cases hstage : job.stage with
  | opening client =>
      cases result with
      | ok done =>
          simp only [hstage, Option.some.injEq] at hstarted
          rw [← hstarted]
          exact ⟨rfl, rfl⟩
      | error failure =>
          simp only [hstage, Option.some.injEq] at hstarted
          rw [← hstarted]
          exact ⟨rfl, rfl⟩
  | _ => simp [hstage] at hstarted

end Remembering

section Finding

variable {situation : Situation} {controller : Controller} {job : Job}

theorem not_isLost_finishStart (result : Except ClientError Unit) :
    (controller.finishStart job result).2.any Action.isLost = false := by
  cases herrand : job.errand <;> cases result <;>
    simp [finishStart, herrand, announceSettled, finish_eq, Action.isLost]

theorem not_isLost_warnUnclean (opening : String) (result : Except ClientError Unit) :
    (warnUnclean opening result).any Action.isLost = false := by
  cases result <;> simp [warnUnclean, Action.isLost]

theorem not_isLost_continueStart (asker : ActivationContext) (scope : Path) (roots : List Root) :
    (controller.continueStart situation job asker scope roots).2.any Action.isLost = false := by
  cases hfolder : situation.settings (some scope) with
  | error cause => simp [continueStart, hfolder, enter, Action.isLost, not_isLost_finishStart]
  | ok folder =>
      cases hworkspace : situation.settings none with
      | error cause =>
          simp [continueStart, hfolder, hworkspace, enter, Action.isLost, not_isLost_finishStart]
      | ok workspace =>
          simp [continueStart, hfolder, hworkspace, enter, Function.comp_def, Action.isLost]

theorem not_isLost_enterStop : controller.enterStop.2.any Action.isLost = false := by
  cases hsubscription : controller.subscription <;>
    simp [enterStop, enter, unsubscribe, hsubscription, Action.isLost]

theorem not_isLost_runStart (asker : ActivationContext) :
    (controller.runStart situation job asker).2.any Action.isLost = false := by
  cases hroots : situation.roots.head? with
  | none => simp only [runStart, hroots, not_isLost_finishStart]
  | some first =>
      cases hclient : controller.client with
      | none => simp only [runStart, hroots, hclient, not_isLost_continueStart]
      | some client => simp [runStart, hroots, hclient, not_isLost_enterStop, Action.isLost]

theorem not_isLost_concludeStop (result : Except ClientError Unit) (aftermath : Aftermath) :
    (controller.concludeStop situation job result aftermath).2.any Action.isLost = false := by
  simp only [concludeStop, enter, List.cons_append, List.nil_append, List.any_cons, Action.isLost,
    Bool.false_or]
  cases aftermath with
  | finish => simp [afterStop, finish_eq, Action.isLost]
  | start asker => simp [afterStop, not_isLost_warnUnclean, not_isLost_runStart]
  | replace asker scope roots =>
      simp [afterStop, not_isLost_warnUnclean, not_isLost_continueStart]
  | settle => cases result <;> simp [afterStop, finish_eq, Action.isLost]

theorem not_isLost_run : (controller.run situation job).2.any Action.isLost = false := by
  have hstop (aftermath : Aftermath) :
      (controller.runStop situation job aftermath).2.any Action.isLost = false := by
    cases hclient : controller.client with
    | none => simp [runStop, hclient, not_isLost_enterStop, not_isLost_concludeStop]
    | some client => simp [runStop, hclient, not_isLost_enterStop, Action.isLost]
  cases herrand : job.errand with
  | start asker => simp only [run, herrand, not_isLost_runStart]
  | inspect => simp [run, herrand, finish_eq, Action.isLost]
  | stop | restart | settle => simp only [run, herrand, hstop]

variable {outcome : Controller × List Action} {result : Except ClientError Unit}

/-- No job ends because it does not know for whom to start: there is something to remember as soon
as there is a restart after a change. -/
theorem Sound.not_isLost_step (hsound : controller.Sound)
    (hjob : controller.job? job.id = some job)
    (hstep : controller.step situation job.id = some outcome) :
    outcome.2.any Action.isLost = false := by
  have hstep' := hstep
  simp only [step, hjob, Option.bind_some] at hstep'
  have hresumes {recorded : Nat} (hrecorded : job.stage.recorded? = some recorded) :
      outcome.2.any Action.isLost = false := by
    cases hmay : controller.mayResume situation job with
    | false =>
        rw [step_of_not_mayResume hjob hrecorded hmay hstep]
        rfl
    | true =>
        obtain ⟨context, -, hresumed⟩ := hsound.resume hjob hrecorded hmay
        rw [Option.some.inj (hstep.symm.trans hresumed)]
        split
        · exact not_isLost_runStart context
        · rfl
  cases hstage : job.stage with
  | arriving =>
      cases hholder : controller.holder with
      | none =>
          simp only [hstage, acquire, hholder, Option.some.injEq] at hstep'
          rw [← hstep']
          exact not_isLost_run
      | some holder =>
          simp only [hstage, acquire, hholder, Option.some.injEq] at hstep'
          rw [← hstep']
          rfl
  | inLine =>
      simp only [hstage, Option.ite_none_right_eq_some, Option.some.injEq] at hstep'
      rw [← hstep'.2]
      exact not_isLost_run
  | settling generation wake => exact hresumes (congrArg Stage.recorded? hstage)
  | returning generation => exact hresumes (congrArg Stage.recorded? hstage)
  | closing client aftermath => simp [hstage] at hstep'
  | opening client => simp [hstage] at hstep'

theorem not_isLost_clientStopped
    (hstopped : controller.clientStopped situation job.id result = some outcome) :
    outcome.2.any Action.isLost = false := by
  obtain ⟨stopped, -, hstopped⟩ := Option.bind_eq_some_iff.mp hstopped
  cases hstage : stopped.stage with
  | closing client aftermath =>
      simp only [hstage, Option.some.injEq] at hstopped
      rw [← hstopped]
      exact not_isLost_concludeStop result aftermath
  | _ => simp [hstage] at hstopped

theorem not_isLost_clientStarted
    (hstarted : controller.clientStarted job.id result = some outcome) :
    outcome.2.any Action.isLost = false := by
  obtain ⟨started, -, hstarted⟩ := Option.bind_eq_some_iff.mp hstarted
  cases hstage : started.stage with
  | opening client =>
      cases result <;> simp only [hstage, Option.some.injEq] at hstarted <;> rw [← hstarted] <;>
        simp [enter, not_isLost_finishStart, Action.isLost]
  | _ => simp [hstage] at hstarted

end Finding

end NplLifecycle.Controller
