import NplLifecycle.Proofs.Session.Effects
import NplLifecycle.Proofs.Session.Journal

/-!
# Requests and their responses

Over all runs of a session: no two of its requests have the same number, on whatever connection they
go out; a request is over at most once; and it is answered only by the first response with its
number that a reader handed over after the request was made, if the session was not closed and the
request not given up before.  A request that is over waits no longer.
-/

namespace NplLifecycle.Session

def Effect.request? : Effect → Option RequestId
  | .write _ (.request request) => some request.id
  | _ => none

def requestsIn (effects : List Effect) : List RequestId :=
  effects.filterMap Effect.request?

section Sending

variable {session : Session} {around : Surroundings} {early late : List Effect}
  {outcome : Session × List Effect}

theorem requestsIn_append : requestsIn (early ++ late) = requestsIn early ++ requestsIn late :=
  List.filterMap_append

theorem requestsIn_of_routine (hroutine : Routine early) : requestsIn early = [] := by
  rw [requestsIn, List.filterMap_eq_nil_iff]
  intro effect hmem
  have hplain := hroutine effect hmem
  cases effect with
  | write connection message =>
      cases message with
      | request request => exact hplain.elim
      | _ => rfl
  | _ => rfl

theorem requestsIn_cons_notify {method : String} {params : Json} {effect : Effect}
    (hnotify : session.notify around method params = .ok effect) :
    requestsIn (effect :: late) = requestsIn late := by
  obtain ⟨connection, -, rfl⟩ := send_eq_ok hnotify
  rfl

/-- A request that goes out is one that is made. -/
theorem sublist_requestEntries {method : String} {params : Json} {effect : Effect}
    (hsend : session.sendRequest around method params = .ok effect) :
    (requestsIn [effect]).Sublist (askedIn (session.requestEntries around method params)) := by
  obtain ⟨connection, -, rfl⟩ := send_eq_ok hsend
  simp only [requestEntries, hsend]
  exact List.Sublist.refl [RequestId.number session.nextRequest]

theorem sublist_stewardTurn {steward : Steward}
    (hturn : StewardTurn around session steward outcome) :
    (requestsIn outcome.2).Sublist (askedIn (session.stewardEntries around steward)) := by
  have hnone (effects : List Effect) (hplain : requestsIn effects = []) :
      (requestsIn effects).Sublist (askedIn (session.stewardEntries around steward)) := by
    rw [hplain]
    exact List.nil_sublist _
  have hroutine (effects : List Effect) (hroutine : Routine effects) :=
    hnone effects (requestsIn_of_routine hroutine)
  cases hturn with
  | attach | lose => exact hroutine _ (routine_hangUps _)
  | greet hstage hprofile hsend =>
      simp only [stewardEntries, hstage, hprofile]
      exact sublist_requestEntries hsend
  | unfit | unsent | refused => exact hroutine _ (routine_failGreeting _ _ _)
  | welcomed hstage hpoll hconfirm =>
      obtain ⟨-, hnotify⟩ := confirm_eq_ok hconfirm
      refine hnone _ ?_
      rw [requestsIn_cons_notify hnotify]
      exact requestsIn_of_routine (routine_logs _)
  | retire => exact hroutine _ (routine_logs _)
  | _ => exact hnone _ rfl

theorem sublist_passage {move : Move} (hpassage : Passage session move outcome) :
    (requestsIn outcome.2).Sublist (askedIn (session.entries move)) := by
  have hroutine (effects : List Effect) (hroutine : Routine effects) :
      (requestsIn effects).Sublist (askedIn (session.entries move)) := by
    rw [requestsIn_of_routine hroutine]
    exact List.nil_sublist _
  cases hpassage with
  | start => exact List.nil_sublist _
  | stop hidle halive hsend =>
      simp only [entries, halive, if_true]
      exact sublist_requestEntries hsend
  | stopDead | stopUnsent => exact hroutine _ (routine_concludeStop _)
  | abandon => exact hroutine _ (routine_hangUps _)
  | openDocument heffects => exact hroutine _ (routine_openDocument heffects)
  | steward hsteward hturn =>
      simp only [entries, hsteward, Option.elim_some]
      exact sublist_stewardTurn hturn
  | reader hreader hexit hconnection hturn => exact hroutine _ hturn.routine
  | call hturn => exact hroutine _ hturn.routine
  | supplyStart | resupply => exact hroutine _ routine_nil
  | refuseStart => exact hroutine _ (routine_cons trivial (routine_cons trivial routine_nil))
  | refuse => exact hroutine _ (routine_cons trivial routine_nil)

end Sending

/-- What a run says of a session's requests. -/
structure Correlated (session : Session) (trace : List Effect) (journal : List Entry) : Prop where
  /-- No two requests have the same number, on whatever connection they go out. -/
  distinct : (askedIn journal).Nodup
  /-- The requests that go out are among those that are made, in their order. -/
  sent : (requestsIn trace).Sublist (askedIn journal)
  /-- A request is over at most once. -/
  once : (returnedIn journal).Nodup
  /-- A request is answered only by the first response with its number that was handed over before
  the session was closed and before the request was given up. -/
  resolved : ∀ early late id result, journal = early ++ .returned id result :: late →
    Resolved early id result
  /-- A request that is over waits no longer. -/
  released : ∀ id ∈ returnedIn journal, id ∉ session.pending

section Runs

variable {profile : ClientProfile} {moves : List Move} {last : Session} {trace : List Effect}

theorem waiting_fresh (profile : ClientProfile) : (fresh profile).Waiting where
  distinct := by
    intro task other id hwaits
    cases task <;> simp [requestOf, fresh, steward?] at hwaits
  known := by
    intro task id hwaits
    cases task <;> simp [requestOf, fresh, steward?] at hwaits

/-- What every move keeps: journal and books agree, each task waits for a request of its own, and
what goes out was entered. -/
structure Accounted (session : Session) (trace : List Effect) (journal : List Entry) : Prop where
  sound : Ledger.Sound journal session.ledger
  waiting : session.Waiting
  sent : (requestsIn trace).Sublist (askedIn journal)

theorem accounted_fresh (profile : ClientProfile) : Accounted (fresh profile) [] [] :=
  ⟨.nil, waiting_fresh profile, List.nil_sublist _⟩

theorem Accounted.step {before after : Session} {past effects : List Effect}
    {journal : List Entry} {move : Move} (haccounted : Accounted before past journal)
    (hmove : before.next? move = some (after, effects)) :
    Accounted after (past ++ effects) (journal ++ before.entries move) := by
  obtain ⟨hsound, hwaiting, hsent⟩ := haccounted
  have hpassage := next?_passage hmove
  obtain ⟨hsteps, hhands⟩ := hpassage.books hwaiting hsound
  refine ⟨hsound.steps hsteps, hwaiting.kept hsound hsteps hhands, ?_⟩
  rw [requestsIn_append, askedIn_append]
  exact hsent.append (sublist_passage hpassage)

/-- Nothing has settled a request that waits. -/
theorem Accounted.unsettled {session : Session} {journal : List Entry} {id : RequestId}
    (haccounted : Accounted session trace journal) (hpending : id ∈ session.pending) :
    session.settled.lookup id = none := by
  refine List.lookup_eq_none_iff.mpr fun entry hmem => ?_
  rw [bne_iff_ne]
  rintro rfl
  have hkeys : entry.1 ∈ session.settled.map Prod.fst := List.mem_map_of_mem hmem
  exact haccounted.sound.apart entry.1 hpending hkeys

theorem accounted_of_run (hrun : Run.follow next? (fresh profile) moves = some (last, trace)) :
    Accounted last trace (Run.notes next? entries (fresh profile) moves) :=
  Run.follow_notes_induction Accounted (accounted_fresh profile)
    (fun _ _ _ _ _ _ _ haccounted hmove => haccounted.step hmove) hrun

/-- Whatever happens to a session, in whatever order: its requests are correlated. -/
theorem correlation_of_run (hrun : Run.follow next? (fresh profile) moves = some (last, trace)) :
    Correlated last trace (Run.notes next? entries (fresh profile) moves) := by
  obtain ⟨hsound, -, hsent⟩ := accounted_of_run hrun
  exact ⟨hsound.distinct, hsent, hsound.once, hsound.resolved,
    fun id hmem => (hsound.returned id hmem).2.1⟩

def practiceProfile (maxRestarts : Nat) : ClientProfile where
  name := "npl"
  version := none
  processId := 1
  workingDirectory := .ofString "/"
  configuration :=
    { roots := [⟨.ofString "/w", "w", 0⟩]
      debounceMs := 300
      contribLibraries := none
      maxRestarts := maxRestarts }

/-- Nothing fails to be written, and every read gives `arrival`. -/
def practiceSurroundings (now : Nat) (arrival : Option Arrival) (decision : Decision) :
    Surroundings where
  now := now
  writeFault := fun _ => none
  arrival := fun _ => arrival
  decide := fun _ => decision

def practiceResponse (id : String) : List UInt8 :=
  Frame.encode ("\x7b\"jsonrpc\":\"2.0\",\"id\":" ++ id ++
    ",\"result\":\x7b\"capabilities\":\x7b\x7d\x7d\x7d")

def practiceTurn (task : Task) : Move :=
  .task (practiceSurroundings 0 none .proceed) task

def practiceGreeting (asker : Asker) (connection : ConnectionId) : List Move :=
  [.supply asker (.ok connection), practiceTurn (.steward 0), practiceTurn (.steward 0),
    practiceTurn (.steward 0)]

/-- Responses arrive together on a connection, and its reader hands them over. -/
def practiceAnswers (connection : ConnectionId) (ids : List String) : List Move :=
  .task (practiceSurroundings 0 (some (.bytes (ids.flatMap practiceResponse))) .proceed)
      (.reader connection) ::
    ids.map fun _ => practiceTurn (.reader connection)

/-- The other side goes away, its reader and the steward see it, and the handler decides. -/
def practiceLoss (connection : ConnectionId) (decision : Decision) : List Move :=
  [.task (practiceSurroundings 0 (some .finish) decision) (.reader connection),
    practiceTurn (.steward 0), .task (practiceSurroundings 0 none decision) (.steward 0)]

/-- The greeting is answered behind responses to nothing and before another answer to it.  The
connection is lost, and on the next one the owner stops while the server is greeted: an answer to
the old greeting comes late, and the shutdown is answered before the new greeting. -/
def practiceOverlap : List Move :=
  .start :: practiceGreeting .start 1 ++ practiceAnswers 1 ["7", "\"1\"", "1", "1"] ++
    [practiceTurn (.steward 0), practiceTurn .call] ++ practiceLoss 1 .proceed ++
    practiceGreeting (.steward 0) 2 ++ [.stop (practiceSurroundings 0 none .proceed)] ++
    practiceAnswers 2 ["1", "3"] ++ [practiceTurn .call]

def practiceJournal : List Entry :=
  Run.notes next? entries (fresh (practiceProfile 3)) practiceOverlap

set_option maxRecDepth 100000 in
theorem practiceOverlap_requests :
    (Run.follow next? (fresh (practiceProfile 3)) practiceOverlap).map (fun result =>
      (requestsIn result.2, returnedIn practiceJournal)) =
      some ([.number 1, .number 2, .number 3], [.number 1, .number 3]) := by
  decide +kernel

theorem correlation_of_practiceOverlap : ∃ last trace,
    Run.follow next? (fresh (practiceProfile 3)) practiceOverlap = some (last, trace) ∧
      requestsIn trace = [.number 1, .number 2, .number 3] ∧
      returnedIn practiceJournal = [.number 1, .number 3] ∧
      Correlated last trace practiceJournal := by
  obtain ⟨⟨last, trace⟩, hrun, hrequests⟩ := Option.map_eq_some_iff.mp practiceOverlap_requests
  obtain ⟨hsent, hreturned⟩ := Prod.mk.inj hrequests
  exact ⟨last, trace, hrun, hsent, hreturned, correlation_of_run hrun⟩

end Runs

end NplLifecycle.Session
