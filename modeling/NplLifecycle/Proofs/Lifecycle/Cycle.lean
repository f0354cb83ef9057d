import NplLifecycle.Frame.Basic
import NplLifecycle.Proofs.Lifecycle.Sound

/-!
# The cycle of a client

In every run the state goes round its cycle without a jump, and whenever nobody works under the
lock, the state, the client and the listener say the same: a client runs and is listened for, or
there is nothing at all.
-/

namespace NplLifecycle

/-- Nobody works under the lock: it is free, or a job has been given it and has not run since. -/
def Controller.IsFree (controller : Controller) : Prop :=
  controller.holder = none ∨
    ∃ job ∈ controller.jobs, controller.holder = some job.id ∧ job.stage.isBusy = false

theorem Controller.Sound.rested_of_isFree {controller : Controller} (hsound : controller.Sound)
    (hfree : controller.IsFree) : controller.Rested := by
  apply hsound.ledger.rested
  intro job hjob
  by_contra hbusy
  have hholder := hsound.orderly.holder_of_busy job hjob (by simpa using hbusy)
  rcases hfree with hnone | ⟨holder, hmem, hsome, hidle⟩
  · rw [hnone] at hholder
    exact absurd hholder (by simp)
  · have hid : job.id = holder.id := Option.some.inj (hholder.symm.trans hsome)
    rw [hsound.orderly.eq_of_id hmem hjob hid, hidle] at hbusy
    exact hbusy rfl

namespace Lifecycle

variable {before after : Lifecycle} {move : Move} {moves : List Move} {effects : List Effect}

theorem Advance.leads (hadvance : Advance before move after effects) :
    before.controller.state.Leads (entered effects) after.controller.state := by
  rcases hadvance.shadow with ⟨hcontrols, hsame⟩ | ⟨hcontrols, errand, hbegun, -⟩ |
    ⟨around, job, -, -, harrives⟩
  · rw [entered, hcontrols, hsame]
    rfl
  · rw [entered, hcontrols, hbegun]
    rfl
  · exact harrives.1.leads

/-- The states that a run enters form a path from the first state to the last. -/
theorem Sound.leads_of_run (hsound : before.Sound)
    (hrun : Run.follow next? before moves = some (after, effects)) :
    before.controller.state.Leads (entered effects) after.controller.state := by
  have hstart : before.controller.state.Leads (entered []) before.controller.state := rfl
  have hholds := Run.follow_induction
    (fun lifecycle past => lifecycle.Sound ∧
      before.controller.state.Leads (entered past) lifecycle.controller.state)
    ⟨hsound, hstart⟩ ?_ hrun
  · exact hholds.2
  · rintro middle past move next more - ⟨hmiddle, hleads⟩ hmove
    refine ⟨hmiddle.step hmove, ?_⟩
    rw [entered_append]
    exact hleads.append (advance_of_next? hmiddle.controller hmove).leads

/-- Whatever is called, announced and supplied, and in whatever order tasks get on: every state
that is entered may follow the one before it, and where nobody works under the lock, a client runs
with its listener or there is neither. -/
theorem agreement_of_run (options : Controller.Options)
    (hrun : Run.follow next? (idle options) moves = some (after, effects)) :
    LifecycleState.idle.Leads (entered effects) after.controller.state ∧
      (after.controller.IsFree →
        (after.controller.state = .running ∧ after.controller.client.isSome ∧
          after.controller.subscription.isSome) ∨
        (after.controller.state = .idle ∧ after.controller.client = none ∧
          after.controller.subscription = none)) := by
  have hsound := (sound_idle options).run hrun
  refine ⟨(sound_idle options).leads_of_run hrun, fun hfree => ?_⟩
  rcases hsound.controller.rested_of_isFree hfree with
    ⟨client, hstate, hclient, hsubscription⟩ | hvacant
  · refine Or.inl ⟨hstate, ?_, ?_⟩
    · rw [hclient]
      rfl
    · rw [hsubscription]
      rfl
  · exact Or.inr hvacant

/-! A run in which a client gets to run, for use as a concrete case. -/

/-- One root with settings, and a server whose every read gives `arrival`. -/
def practiceSurroundings (folder : Settings) (now : Nat) (arrival : Option Session.Arrival) :
    Surroundings where
  situation :=
    { now := now
      workingDirectory := .ofString "/"
      roots := [⟨.ofString "/w", "w", 0⟩]
      settings := fun _ => .ok folder }
  session :=
    { now := now
      writeFault := fun _ => none
      arrival := fun _ => arrival
      decide := fun _ => .abort }
  processId := 1
  channelIsOpen := true

def practiceWelcome : List UInt8 :=
  Frame.encode "\x7b\"jsonrpc\":\"2.0\",\"id\":1,\"result\":\x7b\"capabilities\":\x7b\x7d\x7d\x7d"

/-- A client that is being started gets on until the greeting is answered; its job still has to look
at that. -/
def practiceGreeting (folder : Settings) (client : ClientId) : List Move :=
  let quiet := practiceSurroundings folder 0 none
  [.supply client .start (.ok 1), .task quiet (.session client (.steward 0)),
    .task quiet (.session client (.steward 0)), .task quiet (.session client (.steward 0)),
    .task (practiceSurroundings folder 0 (some (.bytes practiceWelcome)))
      (.session client (.reader 1)),
    .task quiet (.session client (.reader 1)), .task quiet (.session client (.steward 0))]

/-- The first start of a client, from the call to its end. -/
def practiceStart : List Move :=
  let quiet := practiceSurroundings {} 0 none
  [.call (.start ⟨.ofString "/s", "npl", "1"⟩), .task quiet (.job 0)] ++ practiceGreeting {} 0 ++
    [.task quiet (.job 0), .task quiet (.job 0)]

def practiceRun : Option (Lifecycle × List Effect) :=
  Run.follow next? (idle ⟨500, 3⟩) practiceStart

set_option maxRecDepth 100000 in
theorem practiceRun_state : practiceRun.map (fun result =>
    (result.1.controller.state, result.1.controller.holder)) = some (.running, none) := by
  decide +kernel

theorem agreement_of_practiceRun : ∃ after effects, practiceRun = some (after, effects) ∧
    LifecycleState.idle.Leads (entered effects) .running ∧ after.controller.IsFree ∧
      after.controller.client.isSome ∧ after.controller.subscription.isSome := by
  obtain ⟨⟨after, effects⟩, hrun, hstate⟩ := Option.map_eq_some_iff.mp practiceRun_state
  simp only [Prod.mk.injEq] at hstate
  have hfree : after.controller.IsFree := Or.inl hstate.2
  obtain ⟨hleads, hagrees⟩ := agreement_of_run ⟨500, 3⟩ hrun
  rw [hstate.1] at hleads hagrees
  obtain ⟨-, hclient, hsubscription⟩ := (hagrees hfree).resolve_right (by simp)
  exact ⟨after, effects, hrun, hleads, hfree, hclient, hsubscription⟩

end Lifecycle

end NplLifecycle
