import NplLifecycle.Proofs.Run
import NplLifecycle.Proofs.Session.Quiet
import NplLifecycle.Proofs.Session.Turn

/-!
# Moves of a session

Whatever happens to a session is a move: its owner wants something, one of its tasks has a turn, or
a connection that was asked for comes.  A turn may find any time, any bytes on a connection, any
fault of a write and any decision of the error handler.  So a run of moves stands for every
schedule, every server and every error handler.
-/

namespace NplLifecycle.Session

inductive Move where
  | start
  | stop (around : Surroundings)
  /-- The owner forgets the session. -/
  | abandon
  | openDocument (around : Surroundings) (address : Uri.Address) (language text : String)
  | task (around : Surroundings) (task : Task)
  | supply (asker : Asker) (result : Except (List String) ConnectionId)

/-- The connection that a steward is at. -/
def Stage.connection? : Stage → Option ConnectionId
  | .connected connection | .attached connection | .listening connection
  | .greeting connection _ _ | .serving connection => some connection
  | .bereft _ | .reconnecting => none

/-- The session has had nothing to do with a connection. -/
def IsNew (session : Session) (connection : ConnectionId) : Prop :=
  (∀ reader ∈ session.readers, reader.connection ≠ connection) ∧
    ∀ steward ∈ session.stewards, steward.stage.connection? ≠ some connection

instance (session : Session) (connection : ConnectionId) :
    Decidable (session.IsNew connection) :=
  inferInstanceAs (Decidable (_ ∧ _))

/-- What a connection's coming requires: that it was asked for, and that it is a new one. -/
def Takes (session : Session) (asker : Asker) (result : Except (List String) ConnectionId) : Prop :=
  session.awaits asker = true ∧ ∀ connection ∈ result.toOption, session.IsNew connection

instance (session : Session) (asker : Asker) (result : Except (List String) ConnectionId) :
    Decidable (session.Takes asker result) :=
  inferInstanceAs (Decidable (_ ∧ _))

/-- Makes a move.  The owner begins a start or a stop only while it waits for nothing. -/
def next? (session : Session) : Move → Option (Session × List Effect)
  | .start => if session.call = .idle then some session.beginStart else none
  | .stop around => if session.call = .idle then some (session.beginStop around) else none
  | .abandon => some session.abandon
  | .openDocument around address language text =>
    match session.openDocument around address language text with
    | .ok (_, effects) => some (session, effects)
    | .error _ => some (session, [])
  | .task around task => session.step around task
  | .supply asker result =>
    if session.Takes asker result then some (session.supply asker result) else none

def halting (session : Session) : Session :=
  { session with stopping := true }

/-- A move, with what must be so before it and what comes of it. -/
inductive Passage (session : Session) : Move → Session × List Effect → Prop
  | start (hidle : session.call = .idle) : Passage session .start session.beginStart
  | stopDead {around : Surroundings} (hidle : session.call = .idle)
      (halive : session.alive = false) :
      Passage session (.stop around) (session.halting.concludeStop (.ok ()))
  | stopUnsent {around : Surroundings} {failure : ClientError} (hidle : session.call = .idle)
      (halive : session.alive = true)
      (hsend : session.sendRequest around shutdownMethod .null = .error failure) :
      Passage session (.stop around) (session.halting.counted.concludeStop (.error failure))
  | stop {around : Surroundings} {effect : Effect} (hidle : session.call = .idle)
      (halive : session.alive = true)
      (hsend : session.sendRequest around shutdownMethod .null = .ok effect) :
      Passage session (.stop around)
        ({ session.halting.enrolled with
            call := .stopping (.number session.nextRequest) (around.now + shutdownTimeout) },
          [effect])
  | abandon : Passage session .abandon session.abandon
  | openDocument {around : Surroundings} {address : Uri.Address} {language text : String}
      {effects : List Effect}
      (heffects : ∀ effect ∈ effects, ∃ connection params,
        effect = .write connection (.notification (.ofClient "textDocument/didOpen" params))) :
      Passage session (.openDocument around address language text) (session, effects)
  | steward {around : Surroundings} {id : StewardId} {steward : Steward}
      {outcome : Session × List Effect} (hsteward : session.steward? id = some steward)
      (hturn : StewardTurn around session steward outcome) :
      Passage session (.task around (.steward id)) outcome
  | reader {around : Surroundings} {connection : ConnectionId} {reader changed : Reader}
      {reading : Reading} {outcome : Session × List Effect}
      (hreader : session.reader? connection = some reader) (hexit : reader.exit = none)
      (hconnection : reader.connection = connection)
      (hturn : ReaderTurn around session reader reading changed outcome) :
      Passage session (.task around (.reader connection)) outcome
  | call {around : Surroundings} {outcome : Session × List Effect}
      (hturn : CallTurn around session outcome) :
      Passage session (.task around .call) outcome
  | supplyStart {connection : ConnectionId} (hcall : session.call = .connecting)
      (hnew : session.IsNew connection) :
      Passage session (.supply .start (.ok connection)) (session.supplyStart (.ok connection))
  | refuseStart {causes : List String} {line : LogLine} {cause : String}
      (hcall : session.call = .connecting) :
      Passage session (.supply .start (.error causes))
        ({ session with call := .idle }, [.log line, .started (.error (.connection cause))])
  | resupply {id : StewardId} {steward : Steward} {connection : ConnectionId}
      (hsteward : session.steward? id = some steward) (hstage : steward.stage = .reconnecting)
      (hnew : session.IsNew connection) :
      Passage session (.supply (.steward id) (.ok connection))
        (session.setSteward { steward with stage := .connected connection }, [])
  | refuse {id : StewardId} {steward : Steward} {causes : List String} {line : LogLine}
      (hsteward : session.steward? id = some steward) (hstage : steward.stage = .reconnecting) :
      Passage session (.supply (.steward id) (.error causes))
        (session.dropSteward id, [.log line])

variable {session : Session} {around : Surroundings} {outcome : Session × List Effect}

theorem beginStop_of_dead (halive : session.alive = false) :
    session.beginStop around = session.halting.concludeStop (.ok ()) := by
  have hdead : ¬session.alive = true := by simp [halive]
  simp only [beginStop, if_neg hdead]
  rfl

theorem beginStop_of_error {failure : ClientError} (halive : session.alive = true)
    (hsend : session.sendRequest around shutdownMethod .null = .error failure) :
    session.beginStop around = session.halting.counted.concludeStop (.error failure) := by
  have hhalting : session.halting.sendRequest around shutdownMethod .null = .error failure := hsend
  have hrequest := request_of_error hhalting
  rw [halting] at hrequest
  simp only [beginStop, if_pos halive, hrequest]
  rfl

theorem beginStop_of_ok {effect : Effect} (halive : session.alive = true)
    (hsend : session.sendRequest around shutdownMethod .null = .ok effect) :
    session.beginStop around = ({ session.halting.enrolled with
      call := .stopping (.number session.nextRequest) (around.now + shutdownTimeout) },
        [effect]) := by
  have hhalting : session.halting.sendRequest around shutdownMethod .null = .ok effect := hsend
  have hrequest := request_of_ok hhalting
  rw [halting] at hrequest
  simp only [beginStop, if_pos halive, hrequest]
  rfl

theorem passage_beginStop (hidle : session.call = .idle) :
    Passage session (.stop around) (session.beginStop around) := by
  cases halive : session.alive with
  | false =>
      rw [beginStop_of_dead halive]
      exact .stopDead hidle halive
  | true =>
      cases hsend : session.sendRequest around shutdownMethod .null with
      | error failure =>
          rw [beginStop_of_error halive hsend]
          exact .stopUnsent hidle halive hsend
      | ok effect =>
          rw [beginStop_of_ok halive hsend]
          exact .stop hidle halive hsend

/-- To open a document changes nothing.  The server is told about it on the connection that the
session sends on, or not at all. -/
theorem next?_openDocument {address : Uri.Address} {language text : String}
    (hnext : session.next? (.openDocument around address language text) = some outcome) :
    outcome.1 = session ∧ (outcome.2 = [] ∨
      ∃ connection params, session.writer = some connection ∧ outcome.2 =
        [.write connection (.notification (.ofClient "textDocument/didOpen" params))]) := by
  simp only [next?, openDocument] at hnext
  split at hnext
  · rename_i flag effects hopen
    obtain rfl := Option.some.inj hnext
    refine ⟨rfl, ?_⟩
    split at hopen
    · split at hopen
      · simp at hopen
      · simp only [Except.map] at hopen
        split at hopen
        · simp at hopen
        · rename_i sent hnotify
          obtain ⟨connection, hwriter, rfl⟩ := send_eq_ok hnotify
          exact .inr ⟨connection, _, hwriter, (Prod.mk.inj (Except.ok.inj hopen)).2.symm⟩
    · simp only [Except.ok.injEq, Prod.mk.injEq] at hopen
      exact .inl hopen.2.symm
  · obtain rfl := Option.some.inj hnext
    exact ⟨rfl, .inl rfl⟩

theorem passage_openDocument {address : Uri.Address} {language text : String}
    (hnext : session.next? (.openDocument around address language text) = some outcome) :
    Passage session (.openDocument around address language text) outcome := by
  obtain ⟨hsame, heffects⟩ := next?_openDocument hnext
  obtain ⟨after, effects⟩ := outcome
  obtain rfl : after = session := hsame
  refine .openDocument fun effect hmem => ?_
  rcases heffects with hnone | ⟨connection, params, -, hsent⟩
  · obtain rfl : effects = [] := hnone
    exact absurd hmem List.not_mem_nil
  · obtain rfl : effects = [_] := hsent
    exact ⟨connection, params, List.mem_singleton.mp hmem⟩

theorem passage_supply {asker : Asker} {result : Except (List String) ConnectionId}
    (htakes : session.Takes asker result) :
    Passage session (.supply asker result) (session.supply asker result) := by
  obtain ⟨hawaits, hnew⟩ := htakes
  cases asker with
  | start =>
      have hcall : session.call = .connecting := by simpa [awaits] using hawaits
      cases result with
      | ok connection => exact .supplyStart hcall (hnew connection rfl)
      | error causes => exact .refuseStart hcall
  | steward id =>
      cases hsteward : session.steward? id with
      | none => simp [awaits, hsteward] at hawaits
      | some steward =>
          have hstage : steward.stage = .reconnecting := by
            simpa [awaits, hsteward] using hawaits
          cases result with
          | ok connection =>
              have hturn := Passage.resupply hsteward hstage (hnew connection rfl)
              simpa only [supply, supplySteward, hsteward, Except.toOption] using hturn
          | error causes =>
              simp only [supply, supplySteward, hsteward, Except.toOption]
              exact .refuse hsteward hstage

/-- Every move is one of the cases. -/
theorem next?_passage {move : Move} (hnext : session.next? move = some outcome) :
    Passage session move outcome := by
  cases move with
  | start =>
      obtain ⟨hidle, houtcome⟩ := Option.ite_none_right_eq_some.mp hnext
      exact Option.some.inj houtcome ▸ .start hidle
  | stop around =>
      obtain ⟨hidle, houtcome⟩ := Option.ite_none_right_eq_some.mp hnext
      exact Option.some.inj houtcome ▸ passage_beginStop hidle
  | abandon => exact Option.some.inj hnext ▸ .abandon
  | openDocument around address language text => exact passage_openDocument hnext
  | task around task =>
      cases task with
      | call => exact .call (stepCall_turn hnext)
      | steward id =>
          obtain ⟨steward, hsteward, hturn⟩ := stepSteward_turn hnext
          exact .steward hsteward hturn
      | reader connection =>
          obtain ⟨reader, reading, changed, hreader, hexit, hconnection, hturn⟩ :=
            stepReader_turn hnext
          exact .reader hreader hexit hconnection hturn
  | supply asker result =>
      obtain ⟨htakes, houtcome⟩ := Option.ite_none_right_eq_some.mp hnext
      exact Option.some.inj houtcome ▸ passage_supply htakes

end NplLifecycle.Session
