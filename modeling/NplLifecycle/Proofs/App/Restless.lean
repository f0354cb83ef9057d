import NplLifecycle.Proofs.App.Move

/-!
# Restless applications

Where something is left over that would bring a client back, the client can come back although
nobody asks for a start: it is enough to let the jobs in line work one after the other, and then the
job that is left over, once its pause is over.
-/

namespace NplLifecycle.Application

open Controller (Errand Outcome)
open App (Pending)

def Move.now? : Move → Option Nat
  | .lifecycle _ (.task around _) => some around.situation.now
  | _ => none

/-- Moves that may follow at a moment when nobody asks for a start and no change is announced: time
does not run backwards. -/
structure FollowUp (since : Nat) (moves : List Move) : Prop where
  calm : ∀ move ∈ moves, move.isCalm = true
  timely : (since :: moves.filterMap Move.now?).Pairwise (· ≤ ·)

/-- Although nobody asks for a start, a connection may be asked for. -/
def Reconnects (since : Nat) (app : Application) : Prop :=
  ∃ moves final trace client asker, FollowUp since moves ∧
    Run.follow next? app moves = some (final, trace) ∧
    .session client (.connect asker) ∈ trace

/-- Something is left over that brings a client back. -/
def Restless (app : Application) : Prop :=
  app.lifecycle.controller.Pressing ∨ ∃ call ∈ app.calls, call.2.stage = .stopping

section Reconnecting

variable {app next : Application} {since : Nat} {move : Move} {effects : List Lifecycle.Effect}

theorem FollowUp.cons {moves : List Move} (hrest : FollowUp since moves)
    (hquiet : move.isCalm = true) (hnow : ∀ now, move.now? = some now → now = since) :
    FollowUp since (move :: moves) where
  calm := by
    intro other hmem
    rcases List.mem_cons.mp hmem with rfl | hmem
    · exact hquiet
    · exact hrest.calm other hmem
  timely := by
    cases hmoment : move.now? with
    | none =>
        rw [List.filterMap_cons_none hmoment]
        exact hrest.timely
    | some now =>
        rw [List.filterMap_cons_some hmoment, hnow now hmoment]
        refine List.pairwise_cons.mpr ⟨?_, hrest.timely⟩
        intro other hmem
        rcases List.mem_cons.mp hmem with rfl | hmem
        · exact Nat.le_refl _
        · exact (List.pairwise_cons.mp hrest.timely).1 other hmem

/-- A move that asks for a connection itself. -/
theorem reconnects_of_connect {client : ClientId} {asker : Session.Asker}
    (hmove : app.next? move = some (next, effects)) (hquiet : move.isCalm = true)
    (hnow : ∀ now, move.now? = some now → since ≤ now)
    (hconnect : .session client (.connect asker) ∈ effects) : Reconnects since app := by
  refine ⟨[move], next, effects, client, asker, ⟨by simpa using hquiet, ?_⟩,
    Run.follow_singleton hmove, hconnect⟩
  cases hmoment : move.now? with
  | none => simp [hmoment]
  | some now => simp [hmoment, hnow now hmoment]

/-- A move after which a connection may be asked for. -/
theorem Reconnects.step (hnext : Reconnects since next)
    (hmove : app.next? move = some (next, effects)) (hquiet : move.isCalm = true)
    (hnow : ∀ now, move.now? = some now → now = since) : Reconnects since app := by
  obtain ⟨moves, final, trace, client, asker, hfollow, hrun, hconnect⟩ := hnext
  exact ⟨move :: moves, final, effects ++ trace, client, asker, hfollow.cons hquiet hnow,
    Run.follow_cons_eq_some.mpr ⟨next, effects, trace, hmove, hrun, rfl⟩,
    List.mem_append_right _ hconnect⟩

end Reconnecting

section Delivering

variable {app next : Application} {roots : List Root} {ending : JobId × Outcome}

/-- Telling calls of the end of jobs only adds jobs. -/
structure Grows (before after : Application) : Prop where
  orderly : before.lifecycle.controller.Orderly → after.lifecycle.controller.Orderly
  jobs : ∀ job ∈ before.lifecycle.controller.jobs, job ∈ after.lifecycle.controller.jobs
  generation : after.lifecycle.controller.generation = before.lifecycle.controller.generation
  queue : after.lifecycle.controller.queue = before.lifecycle.controller.queue
  deserted : before.lifecycle.controller.Deserted → after.lifecycle.controller.Deserted
  past : before.lifecycle.controller.Past → after.lifecycle.controller.Past
  pressing : before.lifecycle.controller.Orderly → before.lifecycle.controller.Pressing →
    after.lifecycle.controller.Pressing

theorem grows_of_eq (hsame : next.lifecycle = app.lifecycle) : Grows app next := by
  constructor <;> rw [hsame]
  · exact id
  · exact fun _ hmem => hmem
  · exact id
  · exact id
  · exact fun _ => id

theorem grows_enlist (errand : Errand) : Grows app (app.enlist errand) where
  orderly := Controller.Orderly.begin
  jobs := fun _ hmem => Controller.mem_begin.mpr (Or.inl hmem)
  generation := rfl
  queue := rfl
  deserted := fun hdeserted => hdeserted.begin
  past := fun hpast => hpast.begin
  pressing := fun horderly hpressing => hpressing.begin horderly errand

theorem Grows.trans {before middle after : Application} (hfirst : Grows before middle)
    (hsecond : Grows middle after) : Grows before after where
  orderly := hsecond.orderly ∘ hfirst.orderly
  jobs := fun job hmem => hsecond.jobs job (hfirst.jobs job hmem)
  generation := hsecond.generation.trans hfirst.generation
  queue := hsecond.queue.trans hfirst.queue
  deserted := hsecond.deserted ∘ hfirst.deserted
  past := hsecond.past ∘ hfirst.past
  pressing := fun horderly hpressing =>
    hsecond.pressing (hfirst.orderly horderly) (hfirst.pressing horderly hpressing)

theorem grows_proceed (id : Nat) (turn : App.Turn) : Grows app (app.proceed id turn) := by
  cases turn with
  | finish result => exact grows_of_eq rfl
  | ask question stage =>
      cases question with
      | control errand => exact (grows_enlist errand).trans (grows_of_eq rfl)
      | restoreLogin => exact grows_of_eq rfl
      | checkInstructions root => exact grows_of_eq rfl
      | detectMigration roots => exact grows_of_eq rfl
      | selectVersion => exact grows_of_eq rfl
      | cleanServerFiles => exact grows_of_eq rfl
      | pickFolder label start => exact grows_of_eq rfl
      | store folder key value => exact grows_of_eq rfl

theorem grows_hear (call : Nat × Pending) : Grows app (hear roots ending app call) := by
  simp only [hear]
  split
  · exact grows_proceed _ _
  · exact grows_of_eq rfl

theorem grows_foldl_hear (calls : List (Nat × Pending)) :
    Grows app (calls.foldl (hear roots ending) app) := by
  induction calls generalizing app with
  | nil => exact grows_of_eq rfl
  | cons call rest ih => exact (grows_hear call).trans ih

theorem grows_deliver : Grows app (app.deliver roots ending) := by
  have hstart : Grows app { app with calls := [] } := grows_of_eq rfl
  exact hstart.trans (grows_foldl_hear app.calls)

theorem grows_deliverAll (roots : List Root) (endings : List (JobId × Outcome)) :
    Grows app (endings.foldl (deliver roots) app) := by
  induction endings generalizing app with
  | nil => exact grows_of_eq rfl
  | cons ending rest ih => exact grows_deliver.trans ih

theorem mem_calls_hear {call other : Nat × Pending} (hmem : call ∈ app.calls)
    (hne : call.1 ≠ other.1) : call ∈ (hear roots ending app other).calls := by
  simp only [hear]
  split
  · generalize (App.resume app.context roots other.2.stage (App.answerOf ending.2)).2 = turn
    cases turn with
    | finish result => exact List.mem_filter.mpr ⟨hmem, by simpa using hne⟩
    | ask question stage =>
        cases question <;> exact Lifecycle.mem_assign.mpr (Or.inl ⟨hmem, hne⟩)
  · exact Lifecycle.mem_assign.mpr (Or.inl ⟨hmem, hne⟩)

theorem mem_calls_foldl_hear {call : Nat × Pending} {others : List (Nat × Pending)}
    (hmem : call ∈ app.calls) (hne : ∀ other ∈ others, call.1 ≠ other.1) :
    call ∈ (others.foldl (hear roots ending) app).calls := by
  induction others generalizing app with
  | nil => exact hmem
  | cons other rest ih =>
      apply ih (mem_calls_hear hmem (hne other List.mem_cons_self))
      exact fun later hlater => hne later (List.mem_cons_of_mem _ hlater)

/-- A restart whose stop has ended asks for its start. -/
theorem resume_stopping (context : ActivationContext) (outcome : Outcome) :
    (App.resume context roots .stopping (App.answerOf outcome)).2 =
      .ask (.control (.start context)) .starting := by
  cases outcome with
  | done result => cases result <;> rfl
  | configuration found => rfl
  | superseded => rfl
  | contextMissing => rfl

/-- A call that waits for its stop hears of its end and asks for a start, or waits still. -/
theorem stopping_deliver (roots : List Root) (ending : JobId × Outcome)
    (hnodup : (app.calls.map Prod.fst).Nodup) {call : Nat × Pending}
    (hmem : call ∈ app.calls) (hstage : call.2.stage = .stopping) :
    if call.2.job = some ending.1 then
      ∃ job ∈ (app.deliver roots ending).lifecycle.controller.jobs, job.errand.opens = true
    else call ∈ (app.deliver roots ending).calls := by
  obtain ⟨early, late, hcalls⟩ := List.append_of_mem hmem
  have hdelivered : app.deliver roots ending = late.foldl (hear roots ending)
      (hear roots ending (early.foldl (hear roots ending) { app with calls := [] }) call) := by
    rw [deliver, hcalls, List.foldl_append, List.foldl_cons]
  rw [hdelivered]
  generalize early.foldl (hear roots ending) { app with calls := [] } = heard
  split
  · rename_i hwaits
    refine ⟨_, (grows_foldl_hear late).jobs ⟨heard.lifecycle.controller.nextJob,
      .start heard.context, .arriving⟩ ?_, rfl⟩
    simp only [hear, hwaits, if_true, hstage, resume_stopping]
    exact Controller.mem_begin.mpr (Or.inr rfl)
  · rename_i hother
    apply mem_calls_foldl_hear
    · simp only [hear, hother, if_false]
      exact Lifecycle.mem_assign.mpr (Or.inr rfl)
    · rw [hcalls, List.map_append, List.map_cons] at hnodup
      intro other hlater hsame
      have hdistinct := (List.nodup_cons.mp (List.nodup_append.mp hnodup).2.1).1
      exact hdistinct (List.mem_map.mpr ⟨other, hlater, hsame.symm⟩)

/-- Whoever waits for a stop that has ended asks for a start when all have been told. -/
theorem Sound.starts_of_ending {endings : List (JobId × Outcome)}
    (hsound : app.Sound (endings.map Prod.fst)) {call : Nat × Pending} (hmem : call ∈ app.calls)
    (hstage : call.2.stage = .stopping) {id : JobId} (hjob : call.2.job = some id)
    (hended : id ∈ endings.map Prod.fst) :
    ∃ job ∈ (endings.foldl (Application.deliver roots) app).lifecycle.controller.jobs,
      job.errand.opens = true := by
  induction endings generalizing app with
  | nil => exact absurd hended List.not_mem_nil
  | cons ending rest ih =>
      have hheard := stopping_deliver roots ending hsound.nodup hmem hstage
      split at hheard
      · obtain ⟨job, hstart, hopens⟩ := hheard
        exact ⟨job, (grows_deliverAll roots rest).jobs job hstart, hopens⟩
      · rename_i hother
        refine ih hsound.deliver hheard ((List.mem_cons.mp hended).resolve_left ?_)
        rintro rfl
        exact hother hjob

/-- What was left over is left over when calls have been told of the end of jobs. -/
theorem Sound.restless_deliverAll {endings : List (JobId × Outcome)}
    (hsound : app.Sound (endings.map Prod.fst)) (hrestless : app.Restless) :
    (endings.foldl (Application.deliver roots) app).Restless := by
  induction endings generalizing app with
  | nil => exact hrestless
  | cons ending rest ih =>
      apply ih hsound.deliver
      have horderly := hsound.lifecycle.controller.orderly
      rcases hrestless with hpressing | ⟨call, hmem, hstage⟩
      · exact Or.inl (grows_deliver.pressing horderly hpressing)
      · have hheard := stopping_deliver roots ending hsound.nodup hmem hstage
        split at hheard
        · obtain ⟨job, hstart, hopens⟩ := hheard
          exact Or.inl (.opening hstart hopens)
        · exact Or.inr ⟨call, hheard, hstage⟩

end Delivering

section Working

variable {app : Application} {job : Controller.Job} {host : Lifecycle.Surroundings}
  {since : Nat}

def hostAt (host : Lifecycle.Surroundings) (now : Nat) : Lifecycle.Surroundings :=
  { host with
    situation := { host.situation with now := now }
    session := { host.session with now := now } }

theorem hospitable_hostAt (hhost : host.situation.Hospitable) (now : Nat) :
    (hostAt host now).situation.Hospitable := hhost

def work (host : Lifecycle.Surroundings) (now : Nat) (job : JobId) : Move :=
  .lifecycle host.situation.roots (.task (hostAt host now) (.job job))

theorem now?_work {now : Nat} {id : JobId} : (work host now id).now? = some now := rfl

/-- A job has worked and given the lock back, and the calls have been told. -/
structure Onward (app : Application) (next : Controller) (actions : List Controller.Action)
    (after : Application) : Prop where
  sound : after.Sound []
  deserted : after.lifecycle.controller.Deserted
  queue : after.lifecycle.controller.queue = app.lifecycle.controller.line
  generation : after.lifecycle.controller.generation = next.generation
  jobs : ∀ other ∈ next.jobs, other ∈ after.lifecycle.controller.jobs
  restless : (next.Pressing ∨ ∃ call ∈ app.calls, call.2.stage = .stopping) → after.Restless
  starts : ∀ call ∈ app.calls, call.2.stage = .stopping → ∀ id outcome, call.2.job = some id →
    .finish id outcome ∈ actions →
      ∃ other ∈ after.lifecycle.controller.jobs, other.errand.opens = true

/-- A job that has the lock of a deserted controller makes a client, which asks for a connection, or
gives the lock back. -/
theorem Sound.work (hsound : app.Sound []) (hdeserted : app.lifecycle.controller.Deserted)
    (hmem : job ∈ app.lifecycle.controller.jobs)
    (hopen : app.lifecycle.controller.Open job.id) {now : Nat} {next : Controller}
    {actions : List Controller.Action}
    (hstep : app.lifecycle.controller.step (hostAt host now).situation job.id =
      some (next, actions)) :
    Controller.Turn (hostAt host now).situation app.lifecycle.controller job next actions ∧
      ∃ after effects, app.next? (Application.work host now job.id) = some (after, effects) ∧
        (∀ client context, .openClient client context ∈ actions →
          .session client.id (.connect .start) ∈ effects) ∧
        ((∃ client context, .openClient client context ∈ actions) ∨
          Onward app next actions after) := by
  have hcontroller := hsound.lifecycle.controller
  have hjob := hcontroller.orderly.job?_of_mem hmem
  obtain ⟨found, hfound, -, hturn⟩ := hcontroller.arrives hstep
  rw [Option.some.inj (hfound.symm.trans hjob)] at hturn
  obtain ⟨lifecycle, effects, hadvance, hnext, hcontrols, hconnects⟩ :=
    Lifecycle.next?_of_step hjob (hdeserted.idle job hmem) hstep
  refine ⟨hturn, (endings effects).foldl (Application.deliver host.situation.roots)
    { app with lifecycle := lifecycle }, effects, ?_, hconnects, ?_⟩
  · simp only [Application.work, next?, hadvance, Option.map_some]
  rcases hturn.stays_deserted hcontroller hmem hdeserted hopen with hopened | ⟨hafter, hqueue⟩
  · exact Or.inl hopened
  have hadvanced := hsound.advance hadvance
  have hgrows : Grows { app with lifecycle := lifecycle } _ :=
    grows_deliverAll host.situation.roots (endings effects)
  rw [← hnext] at hafter hqueue
  refine Or.inr {
    sound := hadvanced.deliverAll
    deserted := hgrows.deserted hafter
    queue := hgrows.queue.trans hqueue
    generation := by rw [← hnext]; exact hgrows.generation
    jobs := by rw [← hnext]; exact hgrows.jobs
    restless := ?_
    starts := ?_ }
  · rw [← hnext]
    exact hadvanced.restless_deliverAll
  · intro call hcall hstage id outcome hid hfinish
    apply hadvanced.starts_of_ending hcall hstage hid
    rw [← hcontrols] at hfinish
    exact List.mem_map.mpr ⟨(id, outcome), List.mem_filterMap.mpr ⟨_, hfinish, rfl⟩, rfl⟩

def wakeOf : Controller.Stage → Nat
  | .settling _ wake => wake
  | _ => 0

/-- Who has cause for a start makes one as soon as the lock is his. -/
theorem Sound.reconnects_of_cause (hsound : app.Sound []) (hhost : host.situation.Hospitable)
    (hdeserted : app.lifecycle.controller.Deserted)
    (hmem : job ∈ app.lifecycle.controller.jobs)
    (hopen : app.lifecycle.controller.Open job.id)
    (hcause : job.errand.opens = true ∨
      job.stage.recorded? = some app.lifecycle.controller.generation) :
    Reconnects since app := by
  have hcontroller := hsound.lifecycle.controller
  have hwake : ∀ generation wake, job.stage = .settling generation wake →
      wake ≤ (hostAt host (max since (wakeOf job.stage))).situation.now := by
    intro generation wake hstage
    rw [hstage]
    exact Nat.le_max_right _ _
  obtain ⟨next, actions, hstep, client, context, hopened⟩ := hcontroller.openClient_of_cause
    (hospitable_hostAt hhost (max since (wakeOf job.stage))) hmem hdeserted hopen hwake hcause
  obtain ⟨-, after, effects, hmove, hconnects, -⟩ := hsound.work hdeserted hmem hopen hstep
  refine reconnects_of_connect hmove rfl ?_ (hconnects client context hopened)
  intro now hnow
  rw [now?_work] at hnow
  rw [← Option.some.inj hnow]
  exact Nat.le_max_left _ _

/-- A job works for the first time, and a connection may be asked for afterwards. -/
theorem Sound.reconnects_of_new (hsound : app.Sound []) (host : Lifecycle.Surroundings)
    (hdeserted : app.lifecycle.controller.Deserted)
    (hmem : job ∈ app.lifecycle.controller.jobs)
    (hopen : app.lifecycle.controller.Open job.id) (hnew : job.stage.isNew = true)
    (hnext : ∀ next actions after,
      Controller.Turn (hostAt host since).situation app.lifecycle.controller job next actions →
        Onward app next actions after → Reconnects since after) : Reconnects since app := by
  have hstep : app.lifecycle.controller.step (hostAt host since).situation job.id = some _ :=
    hsound.lifecycle.controller.orderly.step_of_new hmem hopen hnew
  obtain ⟨hturn, after, effects, hmove, hconnects, hworked⟩ :=
    hsound.work hdeserted hmem hopen hstep
  rcases hworked with ⟨client, context, hopened⟩ | honward
  · refine reconnects_of_connect hmove rfl ?_ (hconnects client context hopened)
    intro now hnow
    exact Nat.le_of_eq (Option.some.inj hnow)
  · apply (hnext _ _ after hturn honward).step hmove rfl
    intro now hnow
    exact (Option.some.inj hnow).symm

/-- A restless application with nobody in line comes to ask for a connection. -/
theorem Sound.reconnects_of_empty (hsound : app.Sound []) (hhost : host.situation.Hospitable)
    (hdeserted : app.lifecycle.controller.Deserted) (hrestless : app.Restless)
    (hqueue : app.lifecycle.controller.queue = []) : Reconnects since app := by
  have hcontroller := hsound.lifecycle.controller
  have hline : app.lifecycle.controller.line = [] := (List.append_eq_nil_iff.mp hqueue).2
  have hopen : ∀ id, app.lifecycle.controller.Open id :=
    fun id => Controller.open_of_queue_eq_nil hqueue id
  rcases hrestless with hpressing | ⟨call, hcall, hstage⟩
  · cases hpressing with
    | opening hmem hopens =>
        exact hsound.reconnects_of_cause hhost hdeserted hmem (hopen _) (Or.inl hopens)
    | arriving hmem herrand hstage =>
        apply hsound.reconnects_of_new host hdeserted hmem (hopen _) (by rw [hstage]; rfl)
        intro next actions after hturn honward
        obtain ⟨waiting, hwaiting, hrecorded⟩ := hturn.due_of_new hcontroller hmem hdeserted
          (hopen _) herrand (by rw [hstage]; rfl)
        apply honward.sound.reconnects_of_cause hhost honward.deserted
          (honward.jobs waiting hwaiting)
        · exact Controller.open_of_queue_eq_nil (honward.queue.trans hline) _
        · exact Or.inr (by rw [hrecorded, honward.generation])
    | inLine hmem herrand hstage hstop =>
        have hqueued := (hcontroller.orderly.mem_queue _).mpr
          ⟨_, hmem, rfl, by rw [hstage]; rfl⟩
        rw [hqueue] at hqueued
        exact absurd hqueued List.not_mem_nil
    | due hmem hrecorded hstop =>
        exact hsound.reconnects_of_cause hhost hdeserted hmem (hopen _) (Or.inr hrecorded)
  · obtain ⟨id, hid, hfound⟩ := hsound.stopping call hcall hstage
    obtain ⟨stop, hmem, rfl, herrand⟩ := hfound.resolve_right List.not_mem_nil
    have hnew : stop.stage.isNew = true :=
      hcontroller.isNew_of_deserted hdeserted hmem (by simp [herrand])
    apply hsound.reconnects_of_new host hdeserted hmem (hopen _) hnew
    intro next actions after hturn honward
    obtain ⟨outcome, hfinish⟩ :=
      hturn.finish_of_stop hcontroller hmem hdeserted (hopen _) herrand
    obtain ⟨start, hstart, hopens⟩ := honward.starts call hcall hstage stop.id outcome hid hfinish
    exact honward.sound.reconnects_of_cause hhost honward.deserted hstart
      (Controller.open_of_queue_eq_nil (honward.queue.trans hline) _) (Or.inl hopens)

/-- A restless application comes to ask for a connection. -/
theorem Sound.reconnects (hsound : app.Sound []) (hhost : host.situation.Hospitable)
    (hdeserted : app.lifecycle.controller.Deserted) (hrestless : app.Restless) :
    Reconnects since app := by
  -- by the length of the line, whose head can always work
  induction hlength : app.lifecycle.controller.queue.length generalizing app with
  | zero =>
      have hqueue := List.length_eq_zero_iff.mp hlength
      exact hsound.reconnects_of_empty hhost hdeserted hrestless hqueue
  | succ length ih =>
      have hcontroller := hsound.lifecycle.controller
      have hnonempty := List.ne_nil_of_length_eq_add_one hlength
      obtain ⟨job, hmem, hholder⟩ := hcontroller.orderly.head hnonempty
      have hopen : app.lifecycle.controller.Open job.id := Or.inr hholder
      obtain ⟨next, actions, hstep⟩ := hcontroller.step_of_holder (hostAt host since).situation
        hmem hdeserted hholder
      obtain ⟨hturn, after, effects, hmove, hconnects, hworked⟩ :=
        hsound.work hdeserted hmem hopen hstep
      have hdirect : ∀ client context, .openClient client context ∈ actions →
          Reconnects since app := by
        intro client context hopened
        refine reconnects_of_connect hmove rfl ?_ (hconnects client context hopened)
        intro now hnow
        exact Nat.le_of_eq (Option.some.inj hnow)
      rcases hworked with ⟨client, context, hopened⟩ | honward
      · exact hdirect client context hopened
      have hleft : (∃ client context, .openClient client context ∈ actions) ∨ after.Restless := by
        cases hrestless with
        | inl hpressing =>
            rcases hpressing.turn hcontroller (hospitable_hostAt hhost since) hmem hdeserted hholder
              hstep hturn with hopened | hstill
            · exact Or.inl hopened
            · exact Or.inr (honward.restless (Or.inl hstill))
        | inr hwaits =>
            exact Or.inr (honward.restless (Or.inr hwaits))
      rcases hleft with ⟨client, context, hopened⟩ | hstill
      · exact hdirect client context hopened
      refine (ih honward.sound honward.deserted hstill ?_).step hmove rfl ?_
      · rw [honward.queue]
        rw [Controller.queue, hholder] at hlength
        simpa using hlength
      · intro now hnow
        exact (Option.some.inj hnow).symm

end Working

end NplLifecycle.Application
