import NplLifecycle.App.Call
import NplLifecycle.Proofs.Lifecycle.Calm

/-!
# Moves of an application

An application is a lifecycle together with the calls that have not returned.  A call that has asked
for an errand of the controller goes on in the same moment in which the errand's job ends; one that
has asked a helper goes on when the helper answers, whatever the answer is.
-/

namespace NplLifecycle

namespace App

/-- A call that has not returned: where it is, and the job that it waits for, if not a helper. -/
structure Pending where
  stage : Stage
  job : Option JobId

/-- What the end of a job is to the call that waits for it. -/
def answerOf : Controller.Outcome → Answer
  | .done result => .done (result.mapError .client)
  | .configuration _ | .superseded | .contextMissing => .done (.ok ())

/-- May a call that is at a stage still ask for a start, or for a stop that a start follows? -/
def Stage.mayStart : Stage → Bool
  | .restoring | .checking .. | .migrating | .stopping => true
  | _ => false

/-- Does a call at a stage wait for a helper whose answer brings it closer to a start? -/
def Stage.prepares : Stage → Bool
  | .restoring | .checking .. | .migrating => true
  | _ => false

/-- A call that may still ask for a start waits for a stop, or prepares the start. -/
theorem Stage.mayStart_eq_true {stage : Stage} :
    stage.mayStart = true ↔ stage = .stopping ∨ stage.prepares = true := by
  cases stage <;> simp [mayStart, prepares]

def Call.opens : Call → Bool
  | .activate | .restartServer | .execute .restartServer => true
  | _ => false

end App

structure Application where
  context : ActivationContext
  lifecycle : Lifecycle
  calls : List (Nat × App.Pending)
  nextCall : Nat

namespace Application

open Controller (Errand Outcome)
open App (Pending)

def idle (options : Controller.Options) (context : ActivationContext) : Application :=
  ⟨context, .idle options, [], 0⟩

def enlist (app : Application) (errand : Errand) : Application :=
  { app with lifecycle :=
      { app.lifecycle with controller := (app.lifecycle.controller.begin errand).1 } }

/-- Puts a call in the place of the one of the same number. -/
def put (app : Application) (id : Nat) (call : Pending) : Application :=
  { app with calls := Lifecycle.assign id call app.calls }

def proceed (app : Application) (id : Nat) : App.Turn → Application
  | .finish _ => { app with calls := app.calls.filter (·.1 ≠ id) }
  | .ask (.control errand) stage =>
    (app.enlist errand).put id ⟨stage, some app.lifecycle.controller.nextJob⟩
  | .ask _ stage => app.put id ⟨stage, none⟩

/-- A job has ended: a call that has waited for it goes on, and any other one waits still. -/
def hear (roots : List Root) (ended : JobId × Outcome) (app : Application)
    (call : Nat × Pending) : Application :=
  if call.2.job = some ended.1 then
    app.proceed call.1 (App.resume app.context roots call.2.stage (App.answerOf ended.2)).2
  else app.put call.1 call.2

def deliver (roots : List Root) (app : Application) (ended : JobId × Outcome) : Application :=
  app.calls.foldl (hear roots ended) { app with calls := [] }

def ending? : Controller.Action → Option (JobId × Outcome)
  | .finish job outcome => some (job, outcome)
  | _ => none

def endings (effects : List Lifecycle.Effect) : List (JobId × Outcome) :=
  (Lifecycle.controls effects).filterMap ending?

inductive Move where
  /-- A call begins. -/
  | begin (roots : List Root) (call : App.Call)
  /-- A helper answers a call. -/
  | answer (roots : List Root) (id : Nat) (answer : App.Answer)
  /-- Something happens to the lifecycle, be it that somebody calls its controller directly. -/
  | lifecycle (roots : List Root) (move : Lifecycle.Move)

def next? (app : Application) : Move → Option (Application × List Lifecycle.Effect)
  | .begin roots call =>
    some ({ app with nextCall := app.nextCall + 1 }.proceed app.nextCall
      (App.begin app.context roots call).2, [])
  | .answer roots id answer =>
    match app.calls.lookup id with
    | some ⟨stage, none⟩ => some (app.proceed id (App.resume app.context roots stage answer).2, [])
    | _ => none
  | .lifecycle roots move =>
    (app.lifecycle.next? move).map fun (lifecycle, effects) =>
      ((endings effects).foldl (deliver roots) { app with lifecycle := lifecycle }, effects)

/-- Does a move neither ask for a start nor announce a change? -/
def Move.isCalm : Move → Bool
  | .begin _ call => !call.opens
  | .answer .. => true
  | .lifecycle _ move => move.isCalm

end Application

namespace App

/-- Where a call goes fits to what it asks for: only a stop is asked for before a start that is to
follow, and whoever still prepares a start does not ask the controller. -/
def Turn.Fits : Turn → Prop
  | .finish _ => True
  | .ask (.control errand) stage =>
    errand ≠ .settle ∧ stage.prepares = false ∧ (stage = .stopping → errand = .stop)
  | .ask _ stage => stage ≠ .stopping

/-- A call goes to where no start will be asked for. -/
def Turn.Calm : Turn → Prop
  | .finish _ => True
  | .ask (.control errand) stage => errand.opens = false ∧ stage.mayStart = false
  | .ask _ stage => stage.mayStart = false

section Turning

variable (context : ActivationContext) (roots : List Root)

theorem fits_checkNext (rest : List Root) : (checkNext roots rest).Fits := by
  cases rest <;> simp [checkNext, Turn.Fits]

theorem fits_begin (call : Call) : (begin context roots call).2.Fits := by
  cases call with
  | activate => simp [begin, Turn.Fits]
  | deactivate => simp [begin, Turn.Fits, Stage.prepares]
  | restartServer => simp [begin, Turn.Fits, Stage.prepares]
  | execute command =>
      cases command <;> cases roots <;>
        simp [begin, Turn.Fits, Stage.prepares, Command.setting?]

theorem fits_resume (stage : Stage) (answer : Answer) :
    (resume context roots stage answer).2.Fits := by
  cases answer with
  | picked folder => cases stage <;> cases folder <;> simp [resume, Turn.Fits]
  | done result =>
      cases stage <;> cases result <;>
        first
        | exact fits_checkNext _ _
        | exact fits_checkNext _ []
        | simp [resume, Turn.Fits, Stage.prepares]

/-- A call that is not to start the client asks for no start. -/
theorem calm_begin {call : Call} (hopens : call.opens = false) :
    (begin context roots call).2.Calm := by
  cases call with
  | activate => simp [Call.opens] at hopens
  | deactivate => simp [begin, Turn.Calm, Stage.mayStart, Controller.Errand.opens]
  | restartServer => simp [Call.opens] at hopens
  | execute command =>
      cases command <;> cases roots <;>
        simp_all [begin, Turn.Calm, Stage.mayStart, Command.setting?, Call.opens]

theorem calm_resume {stage : Stage} (hstage : stage.mayStart = false) (answer : Answer) :
    (resume context roots stage answer).2.Calm := by
  cases answer with
  | picked folder =>
      cases stage <;> cases folder <;> simp_all [resume, Turn.Calm, Stage.mayStart]
  | done result =>
      cases stage <;> cases result <;> simp_all [resume, Turn.Calm, Stage.mayStart]

end Turning

end App

namespace Application

open Controller (Errand Outcome)
open App (Pending)

/-- What holds of an application when jobs have ended that no call has been told of yet. -/
structure Sound (ended : List JobId) (app : Application) : Prop where
  lifecycle : app.lifecycle.Sound
  tidy : app.lifecycle.Tidy
  nodup : (app.calls.map Prod.fst).Nodup
  /-- Whoever still prepares a start waits for a helper. -/
  prepares : ∀ call ∈ app.calls, call.2.stage.prepares = true → call.2.job = none
  /-- Whoever is to stop the client before its start waits for a stop. -/
  stopping : ∀ call ∈ app.calls, call.2.stage = .stopping → ∃ id, call.2.job = some id ∧
    ((∃ job ∈ app.lifecycle.controller.jobs, job.id = id ∧ job.errand = .stop) ∨ id ∈ ended)

section Sounding

variable {app next : Application} {ended : List JobId} {roots : List Root}

theorem nodup_assign {α : Type} {id : Nat} {value : α} {entries : List (Nat × α)}
    (hnodup : (entries.map Prod.fst).Nodup) :
    ((Lifecycle.assign id value entries).map Prod.fst).Nodup := by
  simp only [Lifecycle.assign, List.map_append, List.map_cons, List.map_nil]
  refine List.nodup_append.mpr
    ⟨hnodup.sublist (List.filter_sublist.map _), List.nodup_singleton _, ?_⟩
  intro key hkey other hother hsame
  obtain ⟨entry, hentry, rfl⟩ := List.mem_map.mp hkey
  rw [List.mem_singleton] at hother
  exact absurd (hsame.trans hother) (by simpa using (List.mem_filter.mp hentry).2)

/-- The lifecycle may be given an errand. -/
theorem Sound.enlist (hsound : app.Sound ended) {errand : Errand} (hsettle : errand ≠ .settle) :
    (app.enlist errand).Sound ended where
  lifecycle := by
    have hcall : app.lifecycle.next? (.call errand) =
        some ((app.enlist errand).lifecycle, []) := by
      simp only [Lifecycle.next?, hsettle, if_false]
      rfl
    exact hsound.lifecycle.step hcall
  tidy := hsound.tidy.begin errand
  nodup := hsound.nodup
  prepares := hsound.prepares
  stopping := by
    intro call hmem hstage
    obtain ⟨id, hjob, hfound⟩ := hsound.stopping call hmem hstage
    refine ⟨id, hjob, hfound.imp_left ?_⟩
    rintro ⟨job, hjob_mem, hid, herrand⟩
    exact ⟨job, Controller.mem_begin.mpr (Or.inl hjob_mem), hid, herrand⟩

/-- A call may be put in the place of the one of the same number. -/
theorem Sound.put (hsound : app.Sound ended) (id : Nat) {call : Pending}
    (hprepares : call.stage.prepares = true → call.job = none)
    (hstopping : call.stage = .stopping → ∃ job, call.job = some job ∧
      ((∃ found ∈ app.lifecycle.controller.jobs, found.id = job ∧ found.errand = .stop) ∨
        job ∈ ended)) :
    (app.put id call).Sound ended where
  lifecycle := hsound.lifecycle
  tidy := hsound.tidy
  nodup := nodup_assign hsound.nodup
  prepares := by
    intro other hmem
    rcases Lifecycle.mem_assign.mp hmem with ⟨hold, -⟩ | rfl
    · exact hsound.prepares other hold
    · exact hprepares
  stopping := by
    intro other hmem
    rcases Lifecycle.mem_assign.mp hmem with ⟨hold, -⟩ | rfl
    · exact hsound.stopping other hold
    · exact hstopping

theorem Sound.proceed (hsound : app.Sound ended) (id : Nat) {turn : App.Turn}
    (hfits : turn.Fits) : (app.proceed id turn).Sound ended := by
  have hhelper : ∀ stage : App.Stage, stage ≠ .stopping →
      (app.put id ⟨stage, none⟩).Sound ended :=
    fun stage hstage => hsound.put id (fun _ => rfl) fun hsame => absurd hsame hstage
  cases turn with
  | finish result =>
      exact {
        lifecycle := hsound.lifecycle
        tidy := hsound.tidy
        nodup := hsound.nodup.sublist (List.filter_sublist.map _)
        prepares := fun call hmem => hsound.prepares call (List.mem_filter.mp hmem).1
        stopping := fun call hmem => hsound.stopping call (List.mem_filter.mp hmem).1 }
  | ask question stage =>
      cases question with
      | control errand =>
          obtain ⟨hsettle, hprepares, hstopping⟩ := hfits
          apply (hsound.enlist hsettle).put id (by simp [hprepares])
          intro hstage
          exact ⟨_, rfl, Or.inl ⟨_, Controller.mem_begin.mpr (Or.inr rfl), rfl,
            hstopping hstage⟩⟩
      | restoreLogin => exact hhelper stage hfits
      | checkInstructions root => exact hhelper stage hfits
      | detectMigration roots => exact hhelper stage hfits
      | selectVersion => exact hhelper stage hfits
      | cleanServerFiles => exact hhelper stage hfits
      | pickFolder label start => exact hhelper stage hfits
      | store folder key value => exact hhelper stage hfits

/-- Where a call goes, no job is lost. -/
theorem mem_jobs_proceed (id : Nat) (turn : App.Turn) {job : Controller.Job}
    (hmem : job ∈ app.lifecycle.controller.jobs) :
    job ∈ (app.proceed id turn).lifecycle.controller.jobs := by
  cases turn with
  | finish result => exact hmem
  | ask question stage =>
      cases question <;> first | exact hmem | exact Controller.mem_begin.mpr (Or.inl hmem)

/-- No job is lost when a call hears that a job has ended. -/
theorem mem_jobs_hear (ending : JobId × Outcome) (call : Nat × Pending) {job : Controller.Job}
    (hmem : job ∈ app.lifecycle.controller.jobs) :
    job ∈ (hear roots ending app call).lifecycle.controller.jobs := by
  simp only [hear]
  split
  · exact mem_jobs_proceed _ _ hmem
  · exact hmem

/-- What holds before any call has heard of the end of a job, and is kept when one call hears of it,
holds when all have. -/
theorem deliver_induction (roots : List Root) (ending : JobId × Outcome)
    (Holds : Application → Prop) (hstart : Holds { app with calls := [] })
    (hhear : ∀ next, Holds next → ∀ call ∈ app.calls, Holds (hear roots ending next call)) :
    Holds (app.deliver roots ending) :=
  List.foldlRecOn app.calls (hear roots ending) hstart hhear

/-- When the calls have been told of the end of a job, nobody waits for it any more. -/
theorem Sound.deliver {ending : JobId × Outcome} (hsound : app.Sound (ending.1 :: ended)) :
    (app.deliver roots ending).Sound ended := by
  have hstart : Sound ended { app with calls := [] } :=
    ⟨hsound.lifecycle, hsound.tidy, List.nodup_nil, by simp, by simp⟩
  have hholds := deliver_induction roots ending (fun next => next.Sound ended ∧
    ∀ job ∈ app.lifecycle.controller.jobs, job ∈ next.lifecycle.controller.jobs)
    ⟨hstart, fun _ hmem => hmem⟩ ?_
  · exact hholds.1
  · rintro next ⟨hnext, hjobs⟩ call hmem
    refine ⟨?_, fun job hjob => mem_jobs_hear ending call (hjobs job hjob)⟩
    simp only [hear]
    split
    · exact hnext.proceed call.1 (App.fits_resume ..)
    · rename_i hother
      apply hnext.put call.1 (hsound.prepares call hmem)
      intro hstage
      obtain ⟨id, hjob, hfound⟩ := hsound.stopping call hmem hstage
      refine ⟨id, hjob, ?_⟩
      rcases hfound with ⟨job, hjob_mem, hid, herrand⟩ | hended
      · exact Or.inl ⟨job, hjobs job hjob_mem, hid, herrand⟩
      · rcases List.mem_cons.mp hended with rfl | hlater
        · exact absurd hjob hother
        · exact Or.inr hlater

theorem Sound.deliverAll {endings : List (JobId × Outcome)}
    (hsound : app.Sound (endings.map Prod.fst)) :
    (endings.foldl (Application.deliver roots) app).Sound [] := by
  induction endings generalizing app with
  | nil => exact hsound
  | cons ending rest ih => exact ih hsound.deliver

/-- When something happens to the lifecycle, a stop is there still, or it has ended. -/
theorem Sound.advance (hsound : app.Sound []) {move : Lifecycle.Move} {lifecycle : Lifecycle}
    {effects : List Lifecycle.Effect}
    (hmove : app.lifecycle.next? move = some (lifecycle, effects)) :
    Sound ((endings effects).map Prod.fst) { app with lifecycle := lifecycle } where
  lifecycle := hsound.lifecycle.step hmove
  tidy := hsound.tidy.step hsound.lifecycle.controller hmove
  nodup := hsound.nodup
  prepares := hsound.prepares
  stopping := by
    intro call hmem hstage
    obtain ⟨id, hjob, hfound⟩ := hsound.stopping call hmem hstage
    obtain ⟨stop, hstop, rfl, herrand⟩ := hfound.resolve_right List.not_mem_nil
    refine ⟨stop.id, hjob, ?_⟩
    rcases (Lifecycle.advance_of_next? hsound.lifecycle.controller hmove).shadow with
      ⟨-, hsame⟩ | ⟨-, errand, hbegun, -⟩ | ⟨around, job, -, hfound, harrives⟩
    · exact Or.inl ⟨stop, hsame ▸ hstop, rfl, herrand⟩
    · exact Or.inl ⟨stop, hbegun ▸ Controller.mem_begin.mpr (Or.inl hstop), rfl, herrand⟩
    · have hjob_mem := (Controller.mem_of_job? hfound).1
      by_cases hid : stop.id = job.id
      · rw [hsound.lifecycle.controller.orderly.eq_of_id hjob_mem hstop hid] at herrand ⊢
        rcases harrives.2.stays_or_ends hjob_mem with ⟨stage, hstays⟩ | ⟨outcome, hends⟩
        · exact Or.inl ⟨_, hstays, rfl, herrand⟩
        · refine Or.inr (List.mem_map.mpr ⟨(job.id, outcome), ?_, rfl⟩)
          exact List.mem_filterMap.mpr ⟨_, hends, rfl⟩
      · exact Or.inl ⟨stop, harrives.2.other_mem_jobs hstop hid, rfl, herrand⟩

/-- Every move keeps an application sound. -/
theorem Sound.step (hsound : app.Sound []) {move : Move} {effects : List Lifecycle.Effect}
    (hmove : app.next? move = some (next, effects)) : next.Sound [] := by
  cases move with
  | begin roots call =>
      simp only [next?, Option.some.injEq, Prod.mk.injEq] at hmove
      rw [← hmove.1]
      have hnumbered : Sound [] { app with nextCall := app.nextCall + 1 } :=
        ⟨hsound.lifecycle, hsound.tidy, hsound.nodup, hsound.prepares, hsound.stopping⟩
      exact hnumbered.proceed app.nextCall (App.fits_begin ..)
  | answer roots id answer =>
      simp only [next?] at hmove
      split at hmove
      · rw [← (Prod.mk.inj (Option.some.inj hmove)).1]
        exact hsound.proceed id (App.fits_resume ..)
      · exact absurd hmove (by simp)
  | lifecycle roots move =>
      obtain ⟨⟨lifecycle, happened⟩, hadvance, hsame⟩ := Option.map_eq_some_iff.mp hmove
      rw [← (Prod.mk.inj hsame).1]
      exact (hsound.advance hadvance).deliverAll

theorem sound_idle (options : Controller.Options) (context : ActivationContext) :
    (idle options context).Sound [] where
  lifecycle := Lifecycle.sound_idle options
  tidy := Lifecycle.tidy_idle options
  nodup := List.nodup_nil
  prepares := by simp [idle]
  stopping := by simp [idle]

/-- Every run keeps an application sound. -/
theorem Sound.run (hsound : app.Sound []) {moves : List Move} {effects : List Lifecycle.Effect}
    (hrun : Run.follow next? app moves = some (next, effects)) : next.Sound [] :=
  Run.follow_induction (fun app _ => app.Sound []) hsound
    (fun _ _ _ _ _ _ hbefore hmove => hbefore.step hmove) hrun

end Sounding

end Application

end NplLifecycle
