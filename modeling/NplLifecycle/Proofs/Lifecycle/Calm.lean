import NplLifecycle.Proofs.Controller.Pressing
import NplLifecycle.Proofs.Lifecycle.Tidy

/-!
# Calm lifecycles

A calm controller whose lifecycle has no listeners stays calm as long as nobody asks for a start,
and neither a session nor the controller asks for a connection.  Conversely, a job that makes a
client asks for a connection at once.
-/

namespace NplLifecycle

/-- What never enters a start never comes to run. -/
theorem LifecycleState.Leads.running_not_mem {first last : LifecycleState}
    {path : List LifecycleState} (hleads : first.Leads path last) (hfirst : first ≠ .starting)
    (hstarting : .starting ∉ path) : .running ∉ path := by
  induction path generalizing first with
  | nil => exact List.not_mem_nil
  | cons next rest ih =>
      obtain ⟨hfollows, hrest⟩ := hleads
      rw [List.mem_cons, not_or] at hstarting ⊢
      refine ⟨?_, ih hrest (Ne.symm hstarting.1) hstarting.2⟩
      rintro rfl
      cases hfollows
      exact hfirst rfl

namespace Lifecycle

open Controller (Action Errand)

/-- Does a move neither ask for a start nor announce a change? -/
def Move.isCalm : Move → Bool
  | .call errand => !errand.opens
  | .announce .. => false
  | .task .. | .supply .. => true

/-- Nobody listens, and the controller is calm. -/
structure Calm (lifecycle : Lifecycle) : Prop where
  controller : lifecycle.controller.Calm
  listeners : lifecycle.listeners = []

/-- Nothing asks for a connection, and no start is entered, nor does a client come to run. -/
structure Hushed (effects : List Effect) : Prop where
  connect : ∀ client asker, .session client (.connect asker) ∉ effects
  starting : .starting ∉ entered effects
  running : .running ∉ entered effects

theorem hushed_nil : Hushed [] :=
  ⟨fun _ _ => List.not_mem_nil, List.not_mem_nil, List.not_mem_nil⟩

theorem Hushed.append {early late : List Effect} (hearly : Hushed early) (hlate : Hushed late) :
    Hushed (early ++ late) where
  connect := by
    intro client asker hmem
    cases List.mem_append.mp hmem with
    | inl hmem =>
        exact hearly.connect client asker hmem
    | inr hmem =>
        exact hlate.connect client asker hmem
  starting := by
    rw [entered_append, List.mem_append, not_or]
    exact ⟨hearly.starting, hlate.starting⟩
  running := by
    rw [entered_append, List.mem_append, not_or]
    exact ⟨hearly.running, hlate.running⟩

section Calming

variable {before after lifecycle : Lifecycle} {move : Move} {effects : List Effect}
  {around : Surroundings} {actions : List Action}

/-- A move that asks for no start keeps a calm lifecycle calm, and asks for no connection. -/
theorem Calm.step (hcalm : before.Calm) (hsound : before.Sound) (htidy : before.Tidy)
    (hquiet : move.isCalm = true) (hmove : before.next? move = some (after, effects)) :
    after.Calm ∧ Hushed effects := by
  cases advance_of_next? hsound.controller hmove with
  | rest hawaits hcontroller hlisteners hcontrols hsession =>
      obtain ⟨client, session, outcome, hlookup, hevolves, habsorb⟩ := hsession
      have hdeserted := hcalm.controller.toDeserted
      have hsession := htidy.quiet hdeserted.vacant.2.1 hdeserted.idle hlookup
      refine ⟨⟨hcontroller ▸ hcalm.controller, hlisteners.trans hcalm.listeners⟩, ?_, ?_, ?_⟩
      · intro other asker hmem
        rw [← (Prod.mk.inj habsorb).2] at hmem
        obtain ⟨effect, heffect, hsame⟩ := List.mem_map.mp hmem
        have hplain := ((hevolves.quiet hsession).2 effect heffect).2
        rw [(Effect.session.inj hsame).2] at hplain
        exact absurd hplain (by simp [Session.Effect.isConnect])
      · rw [entered, hcontrols]
        exact List.not_mem_nil
      · rw [entered, hcontrols]
        exact List.not_mem_nil
  | call herrand =>
      exact ⟨⟨hcalm.controller.begin (by simpa [Move.isCalm] using hquiet) herrand,
        hcalm.listeners⟩, hushed_nil⟩
  | announce => exact absurd hquiet (by simp [Move.isCalm])
  | @turn around id job _ _ hjob harrives hlisteners hperformed =>
      obtain ⟨-, rfl⟩ := Controller.mem_of_job? hjob
      obtain ⟨hafter, hsilent, hstarting⟩ :=
        hcalm.controller.turn hsound.controller hjob harrives
      obtain ⟨reports, -, hresult⟩ := hperformed
      rw [performAll_of_silent hsilent] at hresult
      refine ⟨⟨hafter, ?_⟩, ?_, hstarting, ?_⟩
      · rw [hlisteners, hsilent]
        exact hcalm.listeners
      · intro client asker hmem
        rw [← (Prod.mk.inj hresult).2] at hmem
        obtain ⟨action, -, hsame⟩ := List.mem_map.mp hmem
        exact absurd hsame (by simp)
      · refine harrives.1.leads.running_not_mem ?_ hstarting
        rw [hcalm.controller.vacant.1]
        simp
  | read hinbox hnext =>
      rw [hcalm.listeners] at hinbox
      exact absurd hinbox (by simp)
  | hush hclosed hinbox hnext =>
      rw [hcalm.listeners] at hinbox
      exact absurd hinbox (by simp)

/-- Where nothing runs, nobody listens. -/
theorem Sound.listeners_of_deserted (hsound : lifecycle.Sound)
    (hdeserted : lifecycle.controller.Deserted) : lifecycle.listeners = [] :=
  eq_nil_of_attended hsound.attended fun _ => hsound.controller.not_keeps (Or.inl hdeserted.vacant)

end Calming

section Connecting

variable {lifecycle : Lifecycle} {around : Surroundings} {actions : List Action}
  {job : Controller.Job} {next : Controller}

/-- To make a client is to ask for a connection. -/
theorem connect_mem_performAll {client : Controller.Client} {context : ActivationContext}
    (hmem : .openClient client context ∈ actions) :
    .session client.id (.connect .start) ∈ (lifecycle.performAll around actions).2 := by
  induction actions generalizing lifecycle with
  | nil => exact absurd hmem List.not_mem_nil
  | cons action rest ih =>
      rcases List.mem_cons.mp hmem with rfl | hmem
      · refine List.mem_append_left _ (List.mem_cons_of_mem _ ?_)
        exact List.mem_map.mpr ⟨.connect .start, List.mem_singleton_self _, rfl⟩
      · exact List.mem_append_right _ (ih hmem)

/-- A step of the controller is a move, where the job waits for no client. -/
theorem next?_of_step (hjob : lifecycle.controller.job? job.id = some job)
    (hidle : job.stage.isBusy = false)
    (hstep : lifecycle.controller.step around.situation job.id = some (next, actions)) :
    ∃ after effects, lifecycle.next? (.task around (.job job.id)) = some (after, effects) ∧
      after.controller = next ∧ controls effects = actions ∧
      ∀ client context, .openClient client context ∈ actions →
        .session client.id (.connect .start) ∈ effects := by
  have hawaited : lifecycle.controller.awaited? job.id = none := by
    rw [Controller.awaited?_eq hjob]
    cases hstage : job.stage with
    | closing client aftermath => simp [hstage, Controller.Stage.isBusy] at hidle
    | opening client => simp [hstage, Controller.Stage.isBusy] at hidle
    | arriving => rfl
    | inLine => rfl
    | settling generation wake => rfl
    | returning generation => rfl
  obtain ⟨hcontroller, -, hcontrols⟩ :=
    performAll_frame around { lifecycle with controller := next } actions
  refine ⟨_, _, ?_, hcontroller, hcontrols, fun client context => connect_mem_performAll⟩
  simp only [next?, step, stepJob, hawaited, hstep, Option.map_some]
  rfl

end Connecting

end Lifecycle

end NplLifecycle
