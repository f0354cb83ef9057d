import NplLifecycle.Proofs.App.Move

/-!
# Calm applications

As long as nobody asks for a start, an application whose lifecycle is calm, and whose calls are not
on the way to a start, stays so: nothing asks for a connection any more.
-/

namespace NplLifecycle.Application

open Controller (Outcome)
open App (Pending)
open Lifecycle (Hushed)

/-- Nothing runs, and nobody will start anything. -/
structure Calm (app : Application) : Prop where
  lifecycle : app.lifecycle.Calm
  calls : ∀ call ∈ app.calls, call.2.stage.mayStart = false

section Calming

variable {app next : Application} {roots : List Root} {effects : List Lifecycle.Effect}

theorem Calm.put (hcalm : app.Calm) (id : Nat) {call : Pending}
    (hcall : call.stage.mayStart = false) : (app.put id call).Calm where
  lifecycle := hcalm.lifecycle
  calls := by
    intro other hmem
    rcases Lifecycle.mem_assign.mp hmem with ⟨hold, -⟩ | rfl
    · exact hcalm.calls other hold
    · exact hcall

theorem Calm.proceed (hcalm : app.Calm) (id : Nat) {turn : App.Turn} (hfits : turn.Fits)
    (hturn : turn.Calm) : (app.proceed id turn).Calm := by
  cases turn with
  | finish result =>
      exact ⟨hcalm.lifecycle, fun call hmem => hcalm.calls call (List.mem_filter.mp hmem).1⟩
  | ask question stage =>
      cases question with
      | control errand =>
          have henlisted : (app.enlist errand).Calm :=
            ⟨⟨hcalm.lifecycle.controller.begin hturn.1 hfits.1, hcalm.lifecycle.listeners⟩,
              hcalm.calls⟩
          exact henlisted.put id hturn.2
      | restoreLogin => exact hcalm.put id hturn
      | checkInstructions root => exact hcalm.put id hturn
      | detectMigration roots => exact hcalm.put id hturn
      | selectVersion => exact hcalm.put id hturn
      | cleanServerFiles => exact hcalm.put id hturn
      | pickFolder label start => exact hcalm.put id hturn
      | store folder key value => exact hcalm.put id hturn

theorem Calm.deliver (hcalm : app.Calm) (ending : JobId × Outcome) :
    (app.deliver roots ending).Calm := by
  apply deliver_induction roots ending Calm
  · exact ⟨hcalm.lifecycle, by simp⟩
  · intro next hnext call hmem
    have hcall := hcalm.calls call hmem
    simp only [hear]
    split
    · exact hnext.proceed call.1 (App.fits_resume ..) (App.calm_resume _ _ hcall _)
    · exact hnext.put call.1 hcall

theorem Calm.deliverAll (hcalm : app.Calm) (endings : List (JobId × Outcome)) :
    (endings.foldl (Application.deliver roots) app).Calm := by
  induction endings generalizing app with
  | nil => exact hcalm
  | cons ending rest ih => exact ih (hcalm.deliver ending)

/-- A calm application stays calm as long as nobody asks for a start. -/
theorem Calm.step (hcalm : app.Calm) (hsound : app.Sound []) {move : Move}
    (hquiet : move.isCalm = true) (hmove : app.next? move = some (next, effects)) :
    next.Calm ∧ Hushed effects := by
  cases move with
  | begin roots call =>
      simp only [next?, Option.some.injEq, Prod.mk.injEq] at hmove
      rw [← hmove.1, ← hmove.2]
      have hnumbered : Calm { app with nextCall := app.nextCall + 1 } :=
        ⟨hcalm.lifecycle, hcalm.calls⟩
      exact ⟨hnumbered.proceed app.nextCall (App.fits_begin ..)
        (App.calm_begin _ _ (by simpa [Move.isCalm] using hquiet)), Lifecycle.hushed_nil⟩
  | answer roots id answer =>
      simp only [next?] at hmove
      split at hmove
      · rename_i stage hlookup
        obtain ⟨hsame, hnone⟩ := Prod.mk.inj (Option.some.inj hmove)
        rw [← hsame, ← hnone]
        have hcall := hcalm.calls _ (Lifecycle.mem_of_lookup hlookup)
        exact ⟨hcalm.proceed id (App.fits_resume ..) (App.calm_resume _ _ hcall _),
          Lifecycle.hushed_nil⟩
      · exact absurd hmove (by simp)
  | lifecycle roots move =>
      obtain ⟨⟨lifecycle, happened⟩, hadvance, hsame⟩ := Option.map_eq_some_iff.mp hmove
      obtain ⟨hnext, heffects⟩ := Prod.mk.inj hsame
      obtain ⟨hlifecycle, hhushed⟩ :=
        hcalm.lifecycle.step hsound.lifecycle hsound.tidy hquiet hadvance
      rw [← hnext, ← heffects]
      have hadvanced : Calm { app with lifecycle := lifecycle } := ⟨hlifecycle, hcalm.calls⟩
      exact ⟨hadvanced.deliverAll (endings happened), hhushed⟩

/-- Whatever follows in a calm application, the client stays away. -/
theorem Calm.run (hcalm : app.Calm) (hsound : app.Sound []) {moves : List Move}
    (hquiet : ∀ move ∈ moves, move.isCalm = true)
    (hrun : Run.follow next? app moves = some (next, effects)) :
    next.Calm ∧ Hushed effects := by
  have hholds := Run.follow_induction
    (fun app past => app.Sound [] ∧ app.Calm ∧ Hushed past)
    ⟨hsound, hcalm, Lifecycle.hushed_nil⟩ ?_ hrun
  · exact hholds.2
  · rintro before past move after more hmem ⟨hbefore, hbefore_calm, hpast⟩ hmove
    obtain ⟨hafter_calm, hmore⟩ := hbefore_calm.step hbefore (hquiet move hmem) hmove
    exact ⟨hbefore.step hmove, hafter_calm, hpast.append hmore⟩

end Calming

end NplLifecycle.Application
