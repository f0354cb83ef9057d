import NplLifecycle.Proofs.Session.Move

/-!
# What moves ask of the world

Few moves of a session ask for a connection, report the loss of one, send a request or confirm a
welcome.  Whatever else a move asks of the world is routine, and no account that is kept of a
session has to mention it.
-/

namespace NplLifecycle.Session

/-- Neither asks for a connection nor reports the loss of one. -/
def Effect.IsQuiet : Effect → Prop
  | .connect _ | .consult .closed _ => False
  | _ => True

/-- Is quiet, sends no request, and confirms no welcome. -/
def Effect.IsRoutine : Effect → Prop
  | .connect _ | .consult .closed _ | .write _ (.request _) => False
  | .write _ (.notification notification) => notification.method ≠ "initialized"
  | _ => True

def Routine (effects : List Effect) : Prop :=
  ∀ effect ∈ effects, effect.IsRoutine

section Routine

variable {session : Session} {around : Surroundings} {early late : List Effect}
  {outcome : Session × List Effect}

theorem Effect.IsRoutine.isQuiet {effect : Effect} (hroutine : effect.IsRoutine) :
    effect.IsQuiet := by
  cases effect with
  | connect asker => exact hroutine
  | consult event decision =>
      cases event with
      | fault chain body count => trivial
      | closed => exact hroutine
  | _ => trivial

theorem routine_nil : Routine [] :=
  fun _ hmem => absurd hmem List.not_mem_nil

theorem routine_append (hearly : Routine early) (hlate : Routine late) :
    Routine (early ++ late) :=
  fun effect hmem => (List.mem_append.mp hmem).elim (hearly effect) (hlate effect)

theorem routine_cons {effect : Effect} (hfirst : effect.IsRoutine) (hlate : Routine late) :
    Routine (effect :: late) :=
  List.forall_mem_cons.mpr ⟨hfirst, hlate⟩

theorem routine_logs (lines : List LogLine) : Routine (lines.map Effect.log) := by
  intro effect hmem
  obtain ⟨line, -, rfl⟩ := List.mem_map.mp hmem
  trivial

theorem routine_hangUps (writer : Option ConnectionId) :
    Routine (writer.map Effect.hangUp).toList := by
  cases writer with
  | none => exact routine_nil
  | some connection => exact routine_cons trivial routine_nil

theorem routine_failGreeting (steward : Steward) (connection : ConnectionId)
    (failure : ClientError) : Routine (session.failGreeting steward connection failure).2 := by
  simp only [failGreeting]
  split
  · exact routine_cons trivial (routine_hangUps _)
  · exact routine_hangUps _

theorem routine_concludeStop (result : Except ClientError Unit) :
    Routine (session.concludeStop result).2 :=
  routine_append (routine_hangUps _) (routine_cons trivial routine_nil)

theorem isRoutine_of_notify {method : String} {params : Json} {effect : Effect}
    (hmethod : method ≠ "initialized")
    (hnotify : session.notify around method params = .ok effect) : effect.IsRoutine := by
  obtain ⟨connection, -, rfl⟩ := send_eq_ok hnotify
  exact hmethod

theorem routine_dispatch (message : Message) : Routine (session.dispatch around message).2 := by
  cases message with
  | notification notification => exact routine_nil
  | response response =>
      simp only [dispatch, handleResponse]
      split
      · exact routine_cons trivial routine_nil
      · split
        · exact routine_nil
        · exact routine_cons trivial routine_nil
  | request request =>
      simp only [dispatch, handleRequest]
      apply routine_append (routine_logs _)
      split
      · rename_i effect hsend
        obtain ⟨connection, -, rfl⟩ := send_eq_ok hsend
        exact routine_cons trivial routine_nil
      · exact routine_cons trivial routine_nil

theorem ReaderTurn.routine {reader changed : Reader} {reading : Reading}
    (hturn : ReaderTurn around session reader reading changed outcome) : Routine outcome.2 := by
  cases hturn with
  | cancelled => exact routine_nil
  | message => exact routine_dispatch _
  | fault _ _ htold =>
      obtain ⟨chain, body, rfl, -⟩ := told_eq_error htold
      exact routine_cons trivial routine_nil
  | bytes | finish => exact routine_cons trivial routine_nil
  | failure _ _ _ hevent =>
      rw [hevent]
      exact routine_cons trivial (routine_cons trivial routine_nil)

theorem CallTurn.routine (hturn : CallTurn around session outcome) : Routine outcome.2 := by
  cases hturn with
  | started | failed | orphaned => exact routine_cons trivial routine_nil
  | refused => exact routine_concludeStop _
  | agreed hcall hpoll hleave =>
      obtain ⟨-, -, hnotify⟩ := takeLeave_eq_ok hleave
      exact routine_cons (isRoutine_of_notify (by decide) hnotify) (routine_concludeStop _)

theorem routine_openDocument {effects : List Effect}
    (heffects : ∀ effect ∈ effects, ∃ connection params,
      effect = .write connection (.notification (.ofClient "textDocument/didOpen" params))) :
    Routine effects := by
  intro effect hmem
  obtain ⟨connection, params, rfl⟩ := heffects effect hmem
  show "textDocument/didOpen" ≠ "initialized"
  decide

theorem Routine.quiet (hroutine : Routine early) : ∀ effect ∈ early, effect.IsQuiet :=
  fun effect hmem => (hroutine effect hmem).isQuiet

theorem quiet_of_send {message : Message} {effect : Effect}
    (hsend : session.send around message = .ok effect) : ∀ other ∈ [effect], other.IsQuiet := by
  obtain ⟨connection, -, rfl⟩ := send_eq_ok hsend
  simp [Effect.IsQuiet]

/-- Only a steward that has to decide about a loss is not quiet. -/
theorem StewardTurn.quiet {steward : Steward} (hturn : StewardTurn around session steward outcome) :
    (∀ effect ∈ outcome.2, effect.IsQuiet) ∨
      steward.stage = .bereft .closed ∧ session.stopping = false := by
  cases hturn with
  | attach | lose => exact .inl (routine_hangUps _).quiet
  | listen => exact .inl routine_nil.quiet
  | unfit | unsent | refused => exact .inl (routine_failGreeting _ _ _).quiet
  | greet hstage hprofile hsend => exact .inl (quiet_of_send hsend)
  | @welcomed connection request deadline next answer welcome effect lines hstage hpoll hconfirm =>
      obtain ⟨-, hnotify⟩ := confirm_eq_ok hconfirm
      refine .inl (List.forall_mem_cons.mpr ⟨?_, (routine_logs lines).quiet⟩)
      exact quiet_of_send hnotify effect (List.mem_singleton_self effect)
  | retire => exact .inl (routine_logs _).quiet
  | resign hstage hstopping | exhaust hstage hstopping | reconnect hstage hstopping =>
      exact .inr ⟨hstage, hstopping⟩

theorem Passage.quiet {move : Move} (hpassage : Passage session move outcome)
    (hother : move ≠ .start) : (∀ effect ∈ outcome.2, effect.IsQuiet) ∨
      ∃ around steward, move = .task around (.steward steward.id) ∧
        steward ∈ session.stewards ∧ StewardTurn around session steward outcome ∧
        steward.stage = .bereft .closed ∧ session.stopping = false := by
  cases hpassage with
  | start => exact absurd rfl hother
  | stopDead | stopUnsent => exact .inl (routine_concludeStop _).quiet
  | stop hidle halive hsend => exact .inl (quiet_of_send hsend)
  | abandon => exact .inl (routine_hangUps _).quiet
  | openDocument heffects => exact .inl (routine_openDocument heffects).quiet
  | steward hsteward hturn =>
      obtain ⟨hmem, rfl⟩ := steward?_eq_some hsteward
      exact hturn.quiet.imp_right fun hverdict => ⟨_, _, rfl, hmem, hturn, hverdict⟩
  | reader hreader hexit hconnection hturn => exact .inl hturn.routine.quiet
  | call hturn => exact .inl hturn.routine.quiet
  | supplyStart | resupply => exact .inl routine_nil.quiet
  | refuseStart =>
      refine .inl (Routine.quiet ?_)
      exact routine_cons trivial (routine_cons trivial routine_nil)
  | refuse =>
      refine .inl (Routine.quiet ?_)
      exact routine_cons trivial routine_nil

end Routine

end NplLifecycle.Session
