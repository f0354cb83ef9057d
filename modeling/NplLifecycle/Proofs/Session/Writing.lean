import NplLifecycle.Proofs.Session.Effects

/-!
# What goes out

A session writes requests and notifications of its own, and responses to the requests of the server.
The first are the steward's and the owner's, the second are the readers'.
-/

namespace NplLifecycle.Session

/-- The message that goes out, and the connection that it goes out on. -/
def Effect.written? : Effect → Option (ConnectionId × Message)
  | .write connection message => some (connection, message)
  | _ => none

def writtenIn (effects : List Effect) : List (ConnectionId × Message) :=
  effects.filterMap Effect.written?

def reply? : ConnectionId × Message → Option (ConnectionId × Response)
  | (connection, .response response) => some (connection, response)
  | _ => none

def method? : ConnectionId × Message → Option (ConnectionId × String)
  | (connection, .request request) => some (connection, request.method)
  | (connection, .notification notification) => some (connection, notification.method)
  | (_, .response _) => none

def repliesIn (effects : List Effect) : List (ConnectionId × Response) :=
  (writtenIn effects).filterMap reply?

def methodsIn (effects : List Effect) : List (ConnectionId × String) :=
  (writtenIn effects).filterMap method?

section Writing

variable {session : Session} {around : Surroundings} {early late : List Effect}
  {steward : Steward} {outcome : Session × List Effect}

theorem writtenIn_append : writtenIn (early ++ late) = writtenIn early ++ writtenIn late :=
  List.filterMap_append

theorem repliesIn_append : repliesIn (early ++ late) = repliesIn early ++ repliesIn late := by
  rw [repliesIn, writtenIn_append, List.filterMap_append]
  rfl

theorem methodsIn_append : methodsIn (early ++ late) = methodsIn early ++ methodsIn late := by
  rw [methodsIn, writtenIn_append, List.filterMap_append]
  rfl

theorem repliesIn_of_unwritten (hnone : writtenIn early = []) : repliesIn early = [] := by
  rw [repliesIn, hnone]
  rfl

theorem methodsIn_of_unwritten (hnone : writtenIn early = []) : methodsIn early = [] := by
  rw [methodsIn, hnone]
  rfl

theorem writtenIn_logs (lines : List LogLine) : writtenIn (lines.map Effect.log) = [] := by
  rw [writtenIn, List.filterMap_map]
  exact List.filterMap_eq_nil_iff.mpr fun _ _ => rfl

theorem writtenIn_hangUps (writer : Option ConnectionId) :
    writtenIn (writer.map Effect.hangUp).toList = [] := by
  cases writer <;> rfl

theorem writtenIn_failGreeting (connection : ConnectionId) (failure : ClientError) :
    writtenIn (session.failGreeting steward connection failure).2 = [] := by
  simp only [failGreeting]
  split <;> exact writtenIn_hangUps _

theorem writtenIn_concludeStop (result : Except ClientError Unit) :
    writtenIn (session.concludeStop result).2 = [] := by
  show writtenIn ((session.abandonTasks.writer.map Effect.hangUp).toList ++ [.stopped result]) = []
  rw [writtenIn_append, writtenIn_hangUps]
  rfl

/-- What is sent goes out on the connection that the session sends on. -/
theorem writtenIn_send {message : Message} {effect : Effect} (late : List Effect)
    (hsend : session.send around message = .ok effect) :
    ∃ connection, session.writer = some connection ∧
      writtenIn (effect :: late) = (connection, message) :: writtenIn late := by
  obtain ⟨connection, hwriter, rfl⟩ := send_eq_ok hsend
  exact ⟨connection, hwriter, rfl⟩

/-- A steward sends no responses. -/
theorem StewardTurn.repliesIn_eq_nil (hturn : StewardTurn around session steward outcome) :
    repliesIn outcome.2 = [] := by
  cases hturn with
  | attach | lose => exact repliesIn_of_unwritten (writtenIn_hangUps _)
  | unfit | unsent | refused => exact repliesIn_of_unwritten (writtenIn_failGreeting _ _)
  | greet hstage hprofile hsend =>
      obtain ⟨connection, -, hwritten⟩ := writtenIn_send [] hsend
      rw [repliesIn, hwritten]
      rfl
  | @welcomed _ _ _ _ _ _ _ lines hstage hpoll hconfirm =>
      obtain ⟨-, hnotify⟩ := confirm_eq_ok hconfirm
      obtain ⟨connection, -, hwritten⟩ := writtenIn_send (lines.map Effect.log) hnotify
      rw [repliesIn, hwritten, writtenIn_logs]
      rfl
  | retire => exact repliesIn_of_unwritten (writtenIn_logs _)
  | _ => rfl

/-- The owner's call sends no responses. -/
theorem CallTurn.repliesIn_eq_nil (hturn : CallTurn around session outcome) :
    repliesIn outcome.2 = [] := by
  cases hturn with
  | started | failed | orphaned => rfl
  | refused => exact repliesIn_of_unwritten (writtenIn_concludeStop _)
  | @agreed request deadline next answer effect hcall hpoll hleave =>
      obtain ⟨-, -, hnotify⟩ := takeLeave_eq_ok hleave
      obtain ⟨connection, -, hwritten⟩ := writtenIn_send (next.concludeStop (.ok ())).2
        hnotify
      rw [repliesIn, hwritten, writtenIn_concludeStop]
      rfl

end Writing

end NplLifecycle.Session
