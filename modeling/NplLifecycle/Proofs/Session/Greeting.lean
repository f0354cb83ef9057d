import NplLifecycle.Proofs.Session.Hearing
import NplLifecycle.Proofs.Session.Speech

/-!
# What a greeting says

A session greets the server once on every connection, and each time it says the same: what its
profile says of the client.  Nothing that happens to a session changes the profile, and nobody but
the steward greets.
-/

namespace NplLifecycle.Session

/-- Whatever greeting goes out says what a profile says of the client. -/
def Introduces (profile : ClientProfile) (effects : List Effect) : Prop :=
  ∀ connection request, .write connection (.request request) ∈ effects →
    request.method = greetingMethod → profile.handshake = .ok request.params

/-- The client that a session is one of stays the same, and is the one that the session greets
for. -/
structure Presents (session : Session) (outcome : Session × List Effect) : Prop where
  profile : outcome.1.profile = session.profile
  introduces : Introduces session.profile outcome.2

section Greeting

variable {session : Session} {around : Surroundings} {steward : Steward} {profile : ClientProfile}
  {outcome : Session × List Effect} {effects : List Effect}

/-- Who says something else, or nothing, does not greet. -/
theorem introduces_of_methodsIn
    (hother : ∀ connection, (connection, greetingMethod) ∉ methodsIn effects) :
    Introduces profile effects := by
  intro connection request hmem hmethod
  have hwritten : (connection, Message.request request) ∈ writtenIn effects :=
    List.mem_filterMap.mpr ⟨_, hmem, rfl⟩
  have hsaid : (connection, request.method) ∈ methodsIn effects :=
    List.mem_filterMap.mpr ⟨_, hwritten, rfl⟩
  exact absurd (hmethod ▸ hsaid) (hother connection)

theorem introduces_of_unwritten (hnone : writtenIn effects = []) : Introduces profile effects :=
  introduces_of_methodsIn (by simp [methodsIn_of_unwritten hnone])

theorem StewardTurn.introduces (hturn : StewardTurn around session steward outcome) :
    Introduces session.profile outcome.2 := by
  cases hturn with
  | attach | lose => exact introduces_of_unwritten (writtenIn_hangUps _)
  | unfit | unsent | refused => exact introduces_of_unwritten (writtenIn_failGreeting _ _)
  | @greet _ params _ hstage hprofile hsend =>
      obtain ⟨connection, -, rfl⟩ := send_eq_ok hsend
      intro other request hmem hmethod
      have hsame := Message.request.inj (Effect.write.inj (List.mem_singleton.mp hmem)).2
      rw [hsame]
      exact hprofile
  | @welcomed _ _ _ _ _ _ _ lines hstage hpoll hconfirm =>
      obtain ⟨-, hnotify⟩ := confirm_eq_ok hconfirm
      obtain ⟨connection, -, hmethods⟩ := methodsIn_notify (lines.map Effect.log) hnotify
      apply introduces_of_methodsIn
      rw [hmethods, methodsIn_of_unwritten (writtenIn_logs lines)]
      simp [greetingMethod]
  | retire => exact introduces_of_unwritten (writtenIn_logs _)
  | _ => exact introduces_of_unwritten rfl

theorem CallTurn.introduces (hturn : CallTurn around session outcome) :
    Introduces profile outcome.2 := by
  cases hturn with
  | started | failed | orphaned => exact introduces_of_unwritten rfl
  | refused => exact introduces_of_unwritten (writtenIn_concludeStop _)
  | @agreed request deadline next answer effect hcall hpoll hleave =>
      obtain ⟨-, -, hnotify⟩ := takeLeave_eq_ok hleave
      obtain ⟨connection, -, hmethods⟩ := methodsIn_notify (next.concludeStop (.ok ())).2 hnotify
      apply introduces_of_methodsIn
      rw [hmethods, methodsIn_of_unwritten (writtenIn_concludeStop _)]
      simp [greetingMethod]

theorem presents_supply (asker : Asker) (result : Except (List String) ConnectionId) :
    session.Presents (session.supply asker result) := by
  cases asker with
  | start =>
      cases result with
      | ok connection => exact ⟨rfl, introduces_of_unwritten rfl⟩
      | error causes => exact ⟨rfl, introduces_of_unwritten rfl⟩
  | steward id =>
      constructor
      · simp only [supply, supplySteward]
        split <;> rfl
      · cases result <;> exact introduces_of_unwritten rfl

/-- Whatever a session does by itself, it greets for its client. -/
theorem Evolves.presents (hevolves : Evolves session outcome) : session.Presents outcome := by
  rcases hevolves with ⟨around, task, hstep⟩ | ⟨asker, result, -, rfl⟩
  · have hpassage : Passage session (.task around task) outcome := next?_passage hstep
    refine ⟨hpassage.profile, ?_⟩
    cases hpassage with
    | steward hsteward hturn => exact hturn.introduces
    | reader hreader hexit hconnection hturn =>
        exact introduces_of_methodsIn (by simp [hturn.methodsIn_eq_nil])
    | call hturn => exact hturn.introduces
  · exact presents_supply asker result

theorem presents_concludeStop {ending : Session} (hprofile : ending.profile = session.profile)
    (result : Except ClientError Unit) : session.Presents (ending.concludeStop result) where
  profile := by simp [concludeStop, close, abandonTasks_eq, hprofile]
  introduces := introduces_of_unwritten (writtenIn_concludeStop result)

theorem presents_beginStop : session.Presents (session.beginStop around) := by
  have hhalting : session.halting.profile = session.profile := rfl
  have hcounted : session.halting.counted.profile = session.profile := rfl
  cases halive : session.alive with
  | false =>
      rw [beginStop_of_dead halive]
      exact presents_concludeStop hhalting _
  | true =>
      cases hsend : session.sendRequest around shutdownMethod .null with
      | error failure =>
          rw [beginStop_of_error halive hsend]
          exact presents_concludeStop hcounted _
      | ok effect =>
          obtain ⟨connection, -, rfl⟩ := send_eq_ok hsend
          rw [beginStop_of_ok halive hsend]
          refine ⟨rfl, introduces_of_methodsIn fun other hmem => ?_⟩
          rw [methodsIn_request, List.mem_singleton, Prod.mk.injEq] at hmem
          exact absurd hmem.2 (by decide)

theorem presents_abandon : session.Presents session.abandon where
  profile := by simp [abandon, close, abandonTasks_eq]
  introduces := introduces_of_unwritten (writtenIn_hangUps _)

end Greeting

end NplLifecycle.Session
