import NplLifecycle.Proofs.Controller.Remembering
import NplLifecycle.Proofs.Lifecycle.Dealing

/-!
# For whom a client is started again

A restart after a change has no context of its own.  It starts its client for whoever asked last for
a start, or for a restart, that found a root: this is what the controller remembers in every run.
-/

namespace NplLifecycle.Lifecycle

open Controller (Action)

/-- For whom a job starts when it gets on, if somebody called for it and it comes to its start: a
start when it gets the lock, a restart when no client is left. -/
def asker? (lifecycle : Lifecycle) (job : Controller.Job) : Option ActivationContext :=
  match job.stage with
  | .closing client aftermath =>
    if (lifecycle.reports.lookup client).isSome then aftermath.asker? else none
  | _ => lifecycle.controller.asker? job

/-- The context of a call that comes to its start in a move, and finds a root. -/
def passed? (lifecycle : Lifecycle) : Move → Option ActivationContext
  | .task around (.job id) =>
    if around.situation.roots.isEmpty then none
    else (lifecycle.controller.job? id).bind lifecycle.asker?
  | _ => none

def passed (lifecycle : Lifecycle) (move : Move) : List ActivationContext :=
  (lifecycle.passed? move).toList

/-- The context of the latest call in a run that came to its start, and found a root. -/
def latest? (options : Controller.Options) (moves : List Move) : Option ActivationContext :=
  (Run.notes next? passed (idle options) moves).getLast?

section Remembering

variable {options : Controller.Options} {before after : Lifecycle} {move : Move}
  {moves : List Move} {effects past : List Effect} {around : Surroundings} {id : JobId}
  {job : Controller.Job}

/-- A job that is not there makes no move. -/
theorem exists_job (hmove : before.next? (.task around (.job id)) = some (after, effects)) :
    ∃ job, job.id = id ∧ before.controller.job? job.id = some job := by
  cases hjob : before.controller.job? id with
  | some job =>
      obtain ⟨-, rfl⟩ := Controller.mem_of_job? hjob
      exact ⟨job, rfl, hjob⟩
  | none =>
      have hstep : before.stepJob around id = some (after, effects) := hmove
      simp [stepJob, Controller.awaited?, Controller.step, hjob] at hstep

theorem asker?_of_awaited (hjob : before.controller.job? job.id = some job) {client : ClientId}
    (hawaited : before.controller.awaited? job.id = some client) :
    before.asker? job =
      if (before.reports.lookup client).isSome then job.stage.asker? else none := by
  rw [Controller.awaited?_eq hjob] at hawaited
  cases hstage : job.stage with
  | closing closed aftermath =>
      rw [hstage] at hawaited
      rw [← Option.some.inj hawaited]
      simp only [asker?, hstage, Controller.Stage.asker?]
  | opening opened => simp [asker?, hstage, Controller.asker?, Controller.Stage.asker?]
  | _ => simp [hstage, Controller.Stage.awaited?] at hawaited

/-- A job changes what the controller remembers only when it comes to its start. -/
theorem Works.context (hworks : Works before around job.id after effects)
    (hjob : before.controller.job? job.id = some job) :
    after.controller.context =
      around.situation.remembers (before.asker? job) before.controller.context := by
  cases hworks with
  | @lets client session outcome hawaited hreport hsession hcall hafter =>
      have hcontroller := absorb_controller before client outcome
      rw [hafter] at hcontroller
      rw [hcontroller, asker?_of_awaited hjob hawaited, hreport]
      exact (Controller.remembers_none ..).symm
  | steps hawaited hstep =>
      rw [Controller.awaited?_eq hjob] at hawaited
      rw [Controller.context_step hjob hstep]
      cases hstage : job.stage <;> simp [hstage, Controller.Stage.awaited?, asker?] at hawaited ⊢
  | stopped hawaited hreport hstep =>
      rw [Controller.context_clientStopped hjob hstep, asker?_of_awaited hjob hawaited, hreport]
      rfl
  | started hawaited hreport hstep =>
      obtain ⟨hsame, hnobody⟩ := Controller.context_clientStarted hjob hstep
      rw [asker?_of_awaited hjob hawaited, hnobody, ite_self, Controller.remembers_none]
      exact hsame

theorem context_of_next? (hsound : before.controller.Sound)
    (hmove : before.next? move = some (after, effects)) :
    after.controller.context = (before.passed? move).or before.controller.context := by
  by_cases hown : ∃ around id, move = .task around (.job id)
  · obtain ⟨around, id, rfl⟩ := hown
    obtain ⟨job, rfl, hjob⟩ := exists_job hmove
    rw [(works_of_stepJob hmove).context hjob]
    cases hroots : around.situation.roots.isEmpty <;>
      simp [passed?, Controller.Situation.remembers, hroots, hjob]
  · have hnobody : before.passed? move = none := by
      cases move with
      | task around task =>
          cases task with
          | job id => exact absurd ⟨around, id, rfl⟩ hown
          | _ => rfl
      | _ => rfl
    rw [hnobody, Option.none_or]
    rcases (advance_of_next? hsound hmove).shadow with ⟨-, hsame⟩ | ⟨-, errand, hbegun, -⟩ |
      ⟨around, job, rfl, -⟩
    · rw [hsame]
    · rw [hbegun]
      rfl
    · exact absurd ⟨around, job.id, rfl⟩ hown

/-- In every run the controller remembers for whom the latest call was that came to its start, and
found a root. -/
theorem context_of_run (options : Controller.Options)
    (hrun : Run.follow next? (idle options) moves = some (after, past)) :
    after.controller.context = latest? options moves := by
  have hholds : after.Sound ∧
      after.controller.context = (Run.notes next? passed (idle options) moves).getLast? := by
    refine Run.follow_notes_induction (fun lifecycle _ noted =>
      lifecycle.Sound ∧ lifecycle.controller.context = noted.getLast?)
      ⟨sound_idle options, rfl⟩ ?_ hrun
    rintro before past noted move after effects - ⟨hsound, hcontext⟩ hmove
    refine ⟨hsound.step hmove, ?_⟩
    rw [context_of_next? hsound.controller hmove, hcontext, List.getLast?_append, passed]
    cases before.passed? move <;> rfl
  exact hholds.2

/-- No job ends because it does not know for whom to start. -/
theorem Works.not_isLost (hworks : Works before around job.id after effects)
    (hsound : before.controller.Sound) (hjob : before.controller.job? job.id = some job) :
    (controls effects).any Action.isLost = false := by
  cases hworks with
  | @lets client session outcome hawaited hreport hsession hcall hafter =>
      have hcontrols := controls_absorb before client outcome
      rw [hafter] at hcontrols
      rw [hcontrols]
      rfl
  | steps hawaited hstep => exact hsound.not_isLost_step hjob hstep
  | stopped hawaited hreport hstep => exact Controller.not_isLost_clientStopped hstep
  | started hawaited hreport hstep => exact Controller.not_isLost_clientStarted hstep

/-- In no run a restart ends because nobody is remembered for whom to start. -/
theorem not_contextMissing_of_run (options : Controller.Options)
    (hrun : Run.follow next? (idle options) moves = some (after, past)) (id : JobId) :
    .control (.finish id .contextMissing) ∉ past := by
  have hholds := Run.follow_induction
    (fun lifecycle trace => lifecycle.Sound ∧ (controls trace).any Action.isLost = false)
    ⟨sound_idle options, rfl⟩ ?_ hrun
  · intro hmem
    have hlost : (controls past).any Action.isLost = true :=
      List.any_eq_true.mpr ⟨_, mem_controls.mpr hmem, rfl⟩
    rw [hholds.2] at hlost
    simp at hlost
  · rintro before trace move after effects - ⟨hsound, hnone⟩ hmove
    refine ⟨hsound.step hmove, ?_⟩
    rw [controls_append, List.any_append, hnone, Bool.false_or]
    rcases (advance_of_next? hsound.controller hmove).shadow with ⟨hcontrols, -⟩ |
      ⟨hcontrols, -⟩ | ⟨around, job, rfl, hjob, -⟩
    · rw [hcontrols]
      rfl
    · rw [hcontrols]
      rfl
    · exact (works_of_stepJob hmove).not_isLost hsound.controller hjob

end Remembering

end NplLifecycle.Lifecycle
