import NplLifecycle.Proofs.App.Calm
import NplLifecycle.Proofs.App.Restless
import NplLifecycle.Proofs.Lifecycle.Cycle

/-!
# How final a stop is

When a stop has returned, the client stays away exactly if nothing is left over that would bring it
back: no start is to come, no call of the application is on its way to one, and every restart after
a change that has not worked yet stands in line with another stop behind it.  A restart that has
worked already is no danger, for the stop has counted the generation up since.  But one that was
still in line records the generation of afterwards, and starts the client again.
-/

namespace NplLifecycle.Application

open Controller (Errand Outcome)
open App (Pending)
open Lifecycle (Hushed practiceSurroundings)

/-- Nothing is left over that would bring the client back. -/
structure Settled (app : Application) : Prop where
  served : app.lifecycle.controller.Served
  calls : ∀ call ∈ app.calls, call.2.stage.mayStart = false

section Returning

variable {app middle after : Application} {host : Lifecycle.Surroundings} {since : Nat}
  {move : Move} {effects : List Lifecycle.Effect}

/-- A stop that returns leaves an application deserted, and has counted the generation up. -/
theorem Sound.deserted_of_return (hsound : middle.Sound []) {stop : Controller.Job}
    (hmem : stop ∈ middle.lifecycle.controller.jobs) (herrand : stop.errand = .stop)
    (hmove : middle.next? move = some (after, effects))
    (hreturned : ∀ job ∈ after.lifecycle.controller.jobs, job.id ≠ stop.id) :
    after.lifecycle.controller.Deserted ∧ after.lifecycle.controller.Past := by
  have hstays : ∀ {next : Application}, Grows next after →
      stop ∉ next.lifecycle.controller.jobs :=
    fun hgrows hstop => hreturned stop (hgrows.jobs stop hstop) rfl
  cases move with
  | begin roots call =>
      simp only [next?, Option.some.injEq, Prod.mk.injEq] at hmove
      have hnumbered : Grows middle { middle with nextCall := middle.nextCall + 1 } :=
        grows_of_eq rfl
      exact absurd hmem (hstays (hnumbered.trans (hmove.1 ▸ grows_proceed _ _)))
  | answer roots id answer =>
      simp only [next?] at hmove
      split at hmove
      · have hsame := (Prod.mk.inj (Option.some.inj hmove)).1
        exact absurd hmem (hstays (hsame ▸ grows_proceed _ _))
      · exact absurd hmove (by simp)
  | lifecycle roots move =>
      obtain ⟨⟨lifecycle, happened⟩, hadvance, hsame⟩ := Option.map_eq_some_iff.mp hmove
      have hgrows : Grows { middle with lifecycle := lifecycle } after :=
        (Prod.mk.inj hsame).1 ▸ grows_deliverAll roots (endings happened)
      have hgone := hstays hgrows
      rcases (Lifecycle.advance_of_next? hsound.lifecycle.controller hadvance).shadow with
        ⟨-, hkept⟩ | ⟨-, errand, hbegun, -⟩ | ⟨around, job, -, hjob, harrives⟩
      · exact absurd (hkept ▸ hmem) hgone
      · exact absurd (hbegun ▸ Controller.mem_begin.mpr (Or.inl hmem)) hgone
      · have hjob_mem := (Controller.mem_of_job? hjob).1
        have hself : stop = job := by
          apply hsound.lifecycle.controller.orderly.eq_of_id hjob_mem hmem
          by_contra hne
          exact hgone (harrives.2.other_mem_jobs hmem hne)
        rw [hself] at herrand hreturned
        obtain ⟨hdeserted, hpast⟩ := harrives.2.deserted hsound.lifecycle.controller hjob_mem
          herrand fun other hother => hreturned other (hgrows.jobs other hother)
        exact ⟨hgrows.deserted hdeserted, hgrows.past hpast⟩

/-- A call that comes to wait for a start to end leaves a start to come. -/
theorem Sound.reconnects_of_start (hsound : app.Sound []) (hhost : host.situation.Hospitable)
    (hdeserted : app.lifecycle.controller.Deserted) (id : Nat) (stage : App.Stage)
    (hmove : app.next? move =
      some (app.proceed id (.ask (.control (.start app.context)) stage), []))
    (hquiet : move.isCalm = true) (huntimed : move.now? = none) : Reconnects since app := by
  have hpressing :
      (app.proceed id (.ask (.control (.start app.context)) stage)).lifecycle.controller.Pressing :=
    .opening (Controller.mem_begin.mpr (Or.inr rfl)) rfl
  have hlater : Reconnects since (app.proceed id (.ask (.control (.start app.context)) stage)) :=
    (hsound.step hmove).reconnects hhost ((grows_proceed _ _).deserted hdeserted)
      (Or.inl hpressing)
  exact hlater.step hmove hquiet (by simp [huntimed])

/-- A helper's answer is a move. -/
theorem Sound.next?_answer (hsound : app.Sound []) {id : Nat} {stage : App.Stage}
    (hmem : (id, ⟨stage, none⟩) ∈ app.calls) (answer : App.Answer) :
    app.next? (.answer [] id answer) =
      some (app.proceed id (App.resume app.context [] stage answer).2, []) := by
  simp only [next?, Lifecycle.lookup_of_mem hsound.nodup hmem]

/-- A call that waits for the migration comes to its start. -/
theorem Sound.reconnects_of_migrating (hsound : app.Sound []) (hhost : host.situation.Hospitable)
    (hdeserted : app.lifecycle.controller.Deserted) {id : Nat}
    (hmem : (id, ⟨.migrating, none⟩) ∈ app.calls) : Reconnects since app :=
  hsound.reconnects_of_start hhost hdeserted id .activating
    (hsound.next?_answer hmem (.done (.ok ()))) rfl rfl

/-- A call that a helper's answer takes to the migration comes to its start. -/
theorem Sound.reconnects_of_answer (hsound : app.Sound []) (hhost : host.situation.Hospitable)
    (hdeserted : app.lifecycle.controller.Deserted) {id : Nat} {stage : App.Stage}
    (hmem : (id, ⟨stage, none⟩) ∈ app.calls) (answer : App.Answer) {roots : List Root}
    (hresume : (App.resume app.context [] stage answer).2 =
      .ask (.detectMigration roots) .migrating) : Reconnects since app := by
  have hmove := hsound.next?_answer hmem answer
  rw [hresume] at hmove
  have hwaits : (id, ⟨.migrating, none⟩) ∈
      (app.proceed id (.ask (.detectMigration roots) .migrating)).calls :=
    Lifecycle.mem_assign.mpr (Or.inr rfl)
  have hlater : Reconnects since (app.proceed id (.ask (.detectMigration roots) .migrating)) :=
    (hsound.step hmove).reconnects_of_migrating hhost
      ((grows_proceed _ _).deserted hdeserted) hwaits
  exact hlater.step hmove rfl (by simp [Move.now?])

/-- A call that still prepares a start comes to it, if its helpers fail or have nothing to do. -/
theorem Sound.reconnects_of_prepares (hsound : app.Sound []) (hhost : host.situation.Hospitable)
    (hdeserted : app.lifecycle.controller.Deserted) {call : Nat × Pending}
    (hmem : call ∈ app.calls) (hprepares : call.2.stage.prepares = true) :
    Reconnects since app := by
  obtain ⟨id, stage, job⟩ := call
  have hjob : job = none := hsound.prepares _ hmem hprepares
  subst hjob
  cases stage with
  | restoring =>
      exact hsound.reconnects_of_answer hhost hdeserted hmem (.done (.ok ())) rfl
  | checking rest roots =>
      exact hsound.reconnects_of_answer hhost hdeserted hmem (.done (.error (.helper []))) rfl
  | migrating => exact hsound.reconnects_of_migrating hhost hdeserted hmem
  | withdrawing failure => exact absurd hprepares (by simp [App.Stage.prepares])
  | activating => exact absurd hprepares (by simp [App.Stage.prepares])
  | deactivating => exact absurd hprepares (by simp [App.Stage.prepares])
  | stopping => exact absurd hprepares (by simp [App.Stage.prepares])
  | starting => exact absurd hprepares (by simp [App.Stage.prepares])
  | managing => exact absurd hprepares (by simp [App.Stage.prepares])
  | picking root key => exact absurd hprepares (by simp [App.Stage.prepares])
  | storing key folder => exact absurd hprepares (by simp [App.Stage.prepares])

/-- Where something is left over, the client can come back. -/
theorem Sound.reconnects_of_not_settled (hsound : app.Sound [])
    (hhost : host.situation.Hospitable) (hdeserted : app.lifecycle.controller.Deserted)
    (hsettled : ¬ app.Settled) : Reconnects since app := by
  by_cases hserved : app.lifecycle.controller.Served
  · by_contra hnever
    apply hsettled
    refine ⟨hserved, fun call hmem => ?_⟩
    by_contra hmay
    rw [Bool.not_eq_false, App.Stage.mayStart_eq_true] at hmay
    apply hnever
    cases hmay with
    | inl hstopping =>
        exact hsound.reconnects hhost hdeserted (Or.inr ⟨call, hmem, hstopping⟩)
    | inr hprepares =>
        exact hsound.reconnects_of_prepares hhost hdeserted hmem hprepares
  · exact hsound.reconnects hhost hdeserted
      (Or.inl (Controller.pressing_of_not_served hserved))

/-- Where nothing is left over, an application is calm. -/
theorem Settled.calm (hsettled : app.Settled) (hsound : app.Sound [])
    (hdeserted : app.lifecycle.controller.Deserted) (hpast : app.lifecycle.controller.Past) :
    app.Calm where
  lifecycle :=
    ⟨hsettled.served.calm hdeserted hpast, hsound.lifecycle.listeners_of_deserted hdeserted⟩
  calls := hsettled.calls

/-- When a stop has returned, then whatever follows without anybody asking for a start or announcing
a change, the client stays away: exactly if nothing is left over that would bring it back. -/
theorem finality_of_return (options : Controller.Options) (context : ActivationContext)
    {moves : List Move} {past : List Lifecycle.Effect}
    (hrun : Run.follow next? (idle options context) moves = some (middle, past))
    {stop : Controller.Job} (hmem : stop ∈ middle.lifecycle.controller.jobs)
    (herrand : stop.errand = .stop) (hmove : middle.next? move = some (after, effects))
    (hreturned : ∀ job ∈ after.lifecycle.controller.jobs, job.id ≠ stop.id) (since : Nat) :
    (∀ rest final trace, FollowUp since rest →
      Run.follow next? after rest = some (final, trace) →
      Hushed trace ∧ final.lifecycle.controller.state = .idle) ↔ after.Settled := by
  have hmiddle := (sound_idle options context).run hrun
  have hsound := hmiddle.step hmove
  obtain ⟨hdeserted, hpast⟩ := hmiddle.deserted_of_return hmem herrand hmove hreturned
  constructor
  · intro haway
    by_contra hsettled
    have hhost : (practiceSurroundings {} 0 none).situation.Hospitable :=
      ⟨⟨_, rfl⟩, fun _ => ⟨_, rfl⟩⟩
    have hreconnects : Reconnects since after :=
      hsound.reconnects_of_not_settled hhost hdeserted hsettled
    obtain ⟨rest, final, trace, client, asker, hfollow, hrest, hconnect⟩ := hreconnects
    exact (haway rest final trace hfollow hrest).1.connect client asker hconnect
  · intro hsettled rest final trace hfollow hrest
    have hcalm := hsettled.calm hsound hdeserted hpast
    obtain ⟨hfinal, hhushed⟩ := hcalm.run hsound hfollow.calm hrest
    exact ⟨hhushed, hfinal.lifecycle.controller.vacant.1⟩

end Returning

/-! A start is at work when a change is announced and the client is stopped.  It is the restart
after the change, or the stop, that gets in line first. -/

/-- A start waits for its connection, a change is announced, and the listener has read of it. -/
def practiceChange : List Move :=
  let quiet := practiceSurroundings {} 0 none
  [.call (.start ⟨.ofString "/s", "npl", "1"⟩), .task quiet (.job 0),
    .announce 16 ⟨["NPL.sources"]⟩, .task quiet (.listener 0)].map (.lifecycle [])

/-- A stop is called; the two jobs get in line, the one that is named first before the other one;
the connection is refused, and the job that is named first works. -/
def practiceStop (first second : JobId) : List Move :=
  let quiet := practiceSurroundings {} 0 none
  [.call .stop, .task quiet (.job first), .task quiet (.job second),
    .supply 0 .start (.error ["refused"]), .task quiet (.job 0), .task quiet (.job first)].map
    (.lifecycle [])

def practiceTurn (job : JobId) (now : Nat) : Move :=
  .lifecycle [] (.task (practiceSurroundings {} now none) (.job job))

set_option maxRecDepth 100000 in
theorem practiceStop_jobs :
    ((Run.follow next? (idle ⟨500, 3⟩ ⟨.ofString "/s", "npl", "1"⟩)
        (practiceChange ++ practiceStop 1 2)).bind fun (middle, _) =>
      (middle.next? (practiceTurn 2 0)).map fun (after, _) =>
        (middle.lifecycle.controller.jobs, after.lifecycle.controller.jobs,
          after.calls.length)) =
      some ([⟨1, .settle, .settling 2 500⟩, ⟨2, .stop, .inLine⟩],
        [⟨1, .settle, .settling 2 500⟩], 0) := by
  decide +kernel

/-- The restart is in line before the stop, so it pauses when the stop returns, and is past. -/
theorem finality_of_practiceStop : ∃ after past,
    Run.follow next? (idle ⟨500, 3⟩ ⟨.ofString "/s", "npl", "1"⟩)
      (practiceChange ++ practiceStop 1 2 ++ [practiceTurn 2 0]) = some (after, past) ∧
    after.lifecycle.controller.jobs = [⟨1, .settle, .settling 2 500⟩] ∧
    ∀ rest final trace, FollowUp 0 rest →
      Run.follow next? after rest = some (final, trace) →
      Hushed trace ∧ final.lifecycle.controller.state = .idle := by
  obtain ⟨⟨middle, past⟩, hrun, h⟩ := Option.bind_eq_some_iff.mp practiceStop_jobs
  obtain ⟨⟨after, effects⟩, hmove, h⟩ := Option.map_eq_some_iff.mp h
  simp only [Prod.mk.injEq] at h
  obtain ⟨hmiddle, hafter, hcalls⟩ := h
  have hsettled : after.Settled := by
    refine ⟨⟨?_, ?_⟩, ?_⟩
    · rw [hafter]
      simp [Errand.opens]
    · rw [hafter]
      simp [Controller.Stage.isNew]
    · rw [List.length_eq_zero_iff.mp hcalls]
      simp
  have hstop : ⟨2, .stop, .inLine⟩ ∈ middle.lifecycle.controller.jobs := by
    rw [hmiddle]
    simp
  have hreturned : ∀ job ∈ after.lifecycle.controller.jobs, job.id ≠ 2 := by
    rw [hafter]
    simp
  refine ⟨after, past ++ effects, ?_, hafter, ?_⟩
  · exact Run.follow_append_eq_some.mpr
      ⟨middle, past, effects, hrun, Run.follow_singleton hmove, rfl⟩
  · exact (finality_of_return ⟨500, 3⟩ _ hrun hstop rfl hmove hreturned 0).mpr hsettled

set_option maxRecDepth 100000 in
theorem practiceStop_comeback :
    ((Run.follow next? (idle ⟨500, 3⟩ ⟨.ofString "/s", "npl", "1"⟩) practiceChange).bind
      fun (before, _) => (Run.follow next? before (practiceStop 2 1)).bind fun (after, _) =>
        (Run.follow next? after [practiceTurn 1 0, practiceTurn 1 500]).map fun (_, trace) =>
          (before.lifecycle.controller.nextJob, after.lifecycle.controller.jobs,
            Lifecycle.entered trace)) =
      some (2, [⟨1, .settle, .inLine⟩], [.stopping, .idle, .starting]) := by
  decide +kernel

/-- The stop is in line before the restart, so the restart records the generation of afterwards, and
starts the client although nobody has asked for that, nor announced a change, since the stop was
called. -/
theorem not_final_of_practiceStop : ¬ ∀ (options : Controller.Options)
    (context : ActivationContext) (early late rest : List Move)
    (before after final : Application) (past during trace : List Lifecycle.Effect) (since : Nat),
    Run.follow next? (idle options context) early = some (before, past) →
    Run.follow next? before (.lifecycle [] (.call .stop) :: late) = some (after, during) →
    (∀ move ∈ late, move.isCalm = true) →
    (∀ job ∈ after.lifecycle.controller.jobs, job.id ≠ before.lifecycle.controller.nextJob) →
    FollowUp since rest → Run.follow next? after rest = some (final, trace) → Hushed trace := by
  obtain ⟨⟨before, past⟩, hearly, h⟩ := Option.bind_eq_some_iff.mp practiceStop_comeback
  obtain ⟨⟨after, during⟩, hlate, h⟩ := Option.bind_eq_some_iff.mp h
  obtain ⟨⟨final, trace⟩, hrest, h⟩ := Option.map_eq_some_iff.mp h
  simp only [Prod.mk.injEq] at h
  obtain ⟨hnumber, hjobs, hentered⟩ := h
  intro hfinal
  have hfollow : FollowUp 0 [practiceTurn 1 0, practiceTurn 1 500] :=
    ⟨by simp [practiceTurn, Move.isCalm, Lifecycle.Move.isCalm], by
      simp [practiceTurn, Move.now?, practiceSurroundings]⟩
  have hreturned : ∀ job ∈ after.lifecycle.controller.jobs,
      job.id ≠ before.lifecycle.controller.nextJob := by
    rw [hjobs, hnumber]
    simp
  have hhushed := hfinal _ _ _ _ _ _ _ _ _ _ _ _ hearly hlate
    (by simp [Move.isCalm, Lifecycle.Move.isCalm]) hreturned hfollow hrest
  apply hhushed.starting
  rw [hentered]
  simp

end NplLifecycle.Application
