import NplLifecycle.Proofs.Session.Itinerary
import NplLifecycle.Proofs.Session.Journal
import NplLifecycle.Proofs.Session.Tenure
import NplLifecycle.Proofs.Session.Writing

/-!
# What a client says to its server

Three tasks send on a connection without being asked: the steward greets, the owner opens documents,
and the owner's stop asks for a shutdown and takes leave.  What a move says, and what becomes of the
connection that the session sends on, is said once, as a list of cases.
-/

namespace NplLifecycle.Session

def shutdown? (session : Session) : Option RequestId :=
  session.requestOf .call

/-- Does a steward have a connection still to come, or one that the session does not send on yet? -/
def Stage.Expects : Stage → Prop
  | .connected _ | .reconnecting => True
  | _ => False

/-- Where a stop waits, no connection is still to come, and none will be asked for. -/
structure Settling (session : Session) : Prop where
  stopping : session.shutdown?.isSome → session.stopping = true
  settled : session.shutdown?.isSome → ∀ steward ∈ session.stewards, ¬steward.stage.Expects

/-- The response to a request has arrived, it is no refusal, and nobody has asked after it yet. -/
def Grants (session : Session) (id : RequestId) : Prop :=
  ∃ response value, session.settled.lookup id = some (some response) ∧
    resultOf response = .ok value

def Move.isWish : Move → Bool
  | .openDocument .. | .stop _ => true
  | _ => false

/-- What a move says to the server, and what becomes of the connection that the session sends on. -/
inductive Speech (session : Session) (move : Move) (outcome : Session × List Effect) : Prop
  /-- The session cannot send, or cannot send any more. -/
  | mute (hsilent : methodsIn outcome.2 = []) (hwriter : outcome.1.writer = none)
  | stay (hsilent : methodsIn outcome.2 = []) (hwriter : outcome.1.writer = session.writer)
      (hstage : outcome.1.stage? = session.stage?)
      (hcall : outcome.1.shutdown? = session.shutdown?)
  | attach {connection : ConnectionId} (hsilent : methodsIn outcome.2 = [])
      (hbefore : session.writer = none) (hunread : session.Unread connection)
      (hwriter : outcome.1.writer = some connection)
      (hstage : outcome.1.stage? = some (.attached connection))
      (hcall : outcome.1.shutdown? = none)
  | listen {connection : ConnectionId} (hsilent : methodsIn outcome.2 = [])
      (hwriter : outcome.1.writer = session.writer)
      (hbefore : session.stage? = some (.attached connection))
      (hstage : outcome.1.stage? = some (.listening connection))
      (hcall : outcome.1.shutdown? = session.shutdown?)
  | greet {connection : ConnectionId} {id : RequestId} {deadline : Nat} {params : Json}
      (hmove : move.isWish = false)
      (heffects : outcome.2 = [.write connection (.request (.ofClient id greetingMethod params))])
      (hwriter : outcome.1.writer = session.writer)
      (hbefore : session.stage? = some (.listening connection))
      (hstage : outcome.1.stage? = some (.greeting connection id deadline))
      (hcall : outcome.1.shutdown? = session.shutdown?)
  | confirm {connection : ConnectionId} {id : RequestId} {deadline : Nat}
      (hmove : move.isWish = false)
      (hmethods : methodsIn outcome.2 = [(connection, "initialized")])
      (hgrants : session.Grants id) (hwriter : outcome.1.writer = session.writer)
      (hbefore : session.stage? = some (.greeting connection id deadline))
      (hstage : outcome.1.stage? = some (.serving connection))
      (hcall : outcome.1.shutdown? = session.shutdown?)
  | openDocument {connection : ConnectionId} (hmove : move.isWish = true)
      (hmethods : methodsIn outcome.2 = [(connection, "textDocument/didOpen")])
      (hwriter : session.writer = some connection) (hsame : outcome.1 = session)
  | shutdown {connection : ConnectionId} {id : RequestId} {params : Json}
      (hmove : move.isWish = true) (hidle : session.shutdown? = none)
      (heffects : outcome.2 = [.write connection (.request (.ofClient id shutdownMethod params))])
      (hbefore : session.writer = some connection) (hwriter : outcome.1.writer = session.writer)
      (hstage : outcome.1.stage? = session.stage?) (hcall : outcome.1.shutdown? = some id)
  | exit {connection : ConnectionId} {id : RequestId} (hmove : move.isWish = false)
      (hcall : session.shutdown? = some id)
      (hmethods : methodsIn outcome.2 = [(connection, "exit")]) (hgrants : session.Grants id)
      (hbefore : session.writer = some connection) (hwriter : outcome.1.writer = none)

section Settling

variable {session after : Session} {around : Surroundings} {steward : Steward}
  {outcome : Session × List Effect} {move : Move}

theorem shutdown?_eq (session : Session) :
    session.shutdown? = match session.call with
      | .stopping request _ => some request
      | _ => none := rfl

theorem shutdown?_congr (hcall : after.call = session.call) :
    after.shutdown? = session.shutdown? := by
  rw [shutdown?_eq, shutdown?_eq, hcall]

theorem settling_of_none (hcall : after.shutdown? = none) : after.Settling where
  stopping hsome := by simp [hcall] at hsome
  settled hsome := by simp [hcall] at hsome

/-- The stop goes on waiting, and who came to a new stage expects no connection. -/
theorem Settling.keep (hsettling : session.Settling) (hcall : after.call = session.call)
    (hstopping : after.stopping = session.stopping)
    (hstewards : session.shutdown?.isSome → session.stopping = true →
      ∀ steward ∈ after.stewards, steward ∈ session.stewards ∨ ¬steward.stage.Expects) :
    after.Settling := by
  have hsame := shutdown?_congr hcall
  refine ⟨?_, ?_⟩
  · rw [hsame, hstopping]
    exact hsettling.stopping
  · rw [hsame]
    intro hwaits steward hmem
    rcases hstewards hwaits (hsettling.stopping hwaits) steward hmem with hold | hnew
    · exact hsettling.settled hwaits steward hold
    · exact hnew

theorem StewardTurn.settling (hturn : StewardTurn around session steward outcome)
    (hsettling : session.Settling) : outcome.1.Settling := by
  obtain ⟨hcall, hstopping⟩ := hturn.frame
  refine hsettling.keep hcall hstopping fun hwaits hstops => ?_
  have hset {changed : Steward} (hstage : ¬changed.stage.Expects)
      (hstewards : outcome.1.stewards = (session.setSteward changed).stewards) :
      ∀ other ∈ outcome.1.stewards, other ∈ session.stewards ∨ ¬other.stage.Expects := by
    rw [hstewards]
    intro other hother
    obtain ⟨old, hold, hequal⟩ := List.mem_map.mp hother
    split at hequal
    · exact .inr (hequal ▸ hstage)
    · exact .inl (hequal ▸ hold)
  have hdrop (hstewards : outcome.1.stewards = (session.dropSteward steward.id).stewards) :
      ∀ other ∈ outcome.1.stewards, other ∈ session.stewards ∨ ¬other.stage.Expects :=
    fun other hother => .inl (List.mem_filter.mp (hstewards ▸ hother)).1
  cases hturn with
  | attach => exact hset id rfl
  | @listen connection =>
      refine @hset { steward with stage := .listening connection } id ?_
      rw [listen_eq]
  | unfit | unsent => exact hdrop (by rw [failGreeting_eq]; rfl)
  | refused hstage hpoll =>
      obtain ⟨pending, settled, rfl, -⟩ := poll_eq hpoll
      exact hdrop (by rw [failGreeting_eq]; rfl)
  | greet => exact hset id rfl
  | welcomed hstage hpoll =>
      obtain ⟨pending, settled, rfl, -⟩ := poll_eq hpoll
      exact hset id rfl
  | lose => exact hset id rfl
  | retire | resign | exhaust => exact hdrop rfl
  | reconnect _ hrunning => exact absurd (hrunning.symm.trans hstops) (by simp)

/-- Every move keeps a stop that waits without a connection to come. -/
theorem Passage.settling (hpassage : Passage session move outcome) (hguided : session.Guided)
    (hsettling : session.Settling) : outcome.1.Settling := by
  cases hpassage with
  | start | stopDead | stopUnsent | supplyStart | refuseStart => exact settling_of_none rfl
  | stop hidle halive =>
      refine ⟨fun _ => rfl, fun _ steward hmem => ?_⟩
      have hupkeep := hguided.upkeep_of_single (hguided.single steward hmem)
      intro hexpects
      cases hstage : steward.stage with
      | connected connection =>
          rw [hstage] at hupkeep
          exact absurd (hupkeep.1.alive.symm.trans halive) (by simp)
      | reconnecting =>
          rw [hstage] at hupkeep
          exact absurd (hupkeep.alive.symm.trans halive) (by simp)
      | _ =>
          rw [hstage] at hexpects
          exact hexpects
  | abandon =>
      refine hsettling.keep (abandonTasks_call session) ?_ fun _ _ steward hmem => .inl ?_
      · simp only [Session.abandon, close, abandonTasks_eq]
      · have hstewards : session.abandon.1.stewards = session.abandonTasks.stewards := rfl
        rw [hstewards, abandonTasks_eq] at hmem
        exact (List.mem_filter.mp hmem).1
  | openDocument => exact hsettling
  | steward hsteward hturn => exact hturn.settling hsettling
  | reader hreader hexit hconnection hturn =>
      obtain ⟨pending, settled, hafter, -⟩ := hturn.frame hexit
      rw [hafter]
      exact hsettling.keep rfl rfl fun _ _ _ hmem => .inl hmem
  | call hturn =>
      refine settling_of_none ?_
      cases hturn <;> rfl
  | @resupply id steward connection hsteward hstage =>
      refine hsettling.keep rfl rfl fun hwaits _ _ _ => ?_
      have hexpects : steward.stage.Expects := by rw [hstage]; trivial
      exact absurd hexpects (hsettling.settled hwaits steward (steward?_eq_some hsteward).1)
  | refuse => exact hsettling.keep rfl rfl fun _ _ _ hmem => .inl (List.mem_filter.mp hmem).1

theorem settling_fresh (profile : ClientProfile) : (fresh profile).Settling :=
  settling_of_none rfl

end Settling

section Speaking

variable {session next : Session} {around : Surroundings} {steward : Steward} {id : StewardId}
  {reader : Reader} {move : Move} {outcome : Session × List Effect}

/-- An answer that is no error is a response that had arrived. -/
theorem grants_of_poll {method : String} {request : RequestId} {deadline timeout : Nat}
    {answer : Except ClientError Response} {value : Json}
    (hpoll : session.poll around method request deadline timeout = some (next, answer))
    (hanswer : answer.bind resultOf = .ok value) : session.Grants request := by
  rcases poll_cases hpoll with ⟨settled, hlookup, rfl, -⟩ | ⟨-, -, rfl, -⟩
  · cases settled with
    | none => exact absurd hanswer (by simp [Except.bind])
    | some response => exact ⟨response, value, hlookup, hanswer⟩
  · exact absurd hanswer (by simp [Except.bind])

/-- A welcome is an answer that is no error. -/
theorem exists_of_welcomeOf {answer : Except ClientError Response} {welcome : Welcome}
    (hwelcome : welcomeOf answer = .ok welcome) : ∃ value, answer.bind resultOf = .ok value := by
  rw [welcomeOf] at hwelcome
  cases hanswer : answer.bind resultOf with
  | ok value => exact ⟨value, rfl⟩
  | error failure =>
      rw [hanswer] at hwelcome
      cases failure <;> exact absurd hwelcome (by simp)

theorem methodsIn_notify {method : String} {params : Json} {effect : Effect} (late : List Effect)
    (hnotify : session.notify around method params = .ok effect) :
    ∃ connection, session.writer = some connection ∧
      methodsIn (effect :: late) = (connection, method) :: methodsIn late := by
  obtain ⟨connection, hwriter, hwritten⟩ := writtenIn_send late hnotify
  refine ⟨connection, hwriter, ?_⟩
  rw [methodsIn, hwritten]
  rfl

theorem methodsIn_request (connection : ConnectionId) (id : RequestId) (method : String)
    (params : Json) : methodsIn [.write connection (.request (.ofClient id method params))] =
      [(connection, method)] := rfl

/-- A reader says nothing of its own. -/
theorem ReaderTurn.methodsIn_eq_nil {changed : Reader} {reading : Reading}
    (hturn : ReaderTurn around session reader reading changed outcome) :
    methodsIn outcome.2 = [] := by
  cases hturn with
  | cancelled | fault | bytes | finish | failure => rfl
  | @message found rest message =>
      cases message with
      | notification notification => rfl
      | response response =>
          simp only [dispatch, handleResponse]
          split
          · rfl
          · split <;> rfl
      | request request =>
          simp only [dispatch, handleRequest]
          rw [methodsIn_append, methodsIn_of_unwritten (writtenIn_logs _)]
          split
          · rename_i effect hsend
            obtain ⟨connection, -, rfl⟩ := send_eq_ok hsend
            rfl
          · rfl

theorem writer_failGreeting {connection : ConnectionId} {failure : ClientError} :
    (session.failGreeting steward connection failure).1.writer = none := by
  rw [failGreeting_eq]
  rfl

theorem StewardTurn.speech (hturn : StewardTurn around session steward outcome)
    (hmove : move.isWish = false) (hsteward : session.steward? id = some steward)
    (hguided : session.Guided) (hsettling : session.Settling) : Speech session move outcome := by
  have hsingle := hguided.stewards_eq hsteward
  have hat := stage?_of_single hsingle
  have hupkeep := hguided.upkeep_of_single hsingle
  have hcall := shutdown?_congr hturn.frame.1
  have hset (changed : Steward) (hid : changed.id = steward.id)
      (hstewards : outcome.1.stewards = (session.setSteward changed).stewards) :
      outcome.1.stage? = some changed.stage :=
    stage?_of_single (hstewards.trans (stewards_setSteward hsingle hid))
  cases hturn with
  | @attach connection hstage =>
      rw [hstage] at hupkeep
      have hexpects : steward.stage.Expects := by rw [hstage]; trivial
      have hidle : session.shutdown? = none := by
        refine Option.not_isSome_iff_eq_none.mp fun hwaits => ?_
        exact hsettling.settled hwaits steward (steward?_eq_some hsteward).1 hexpects
      exact .attach (methodsIn_of_unwritten (writtenIn_hangUps _)) hupkeep.1.writer hupkeep.2 rfl
        (hset { steward with stage := .attached connection } rfl rfl) (hcall.trans hidle)
  | @listen connection hstage =>
      rw [hstage] at hat
      refine .listen rfl ?_ hat (hset { steward with stage := .listening connection } rfl ?_) hcall
      · rw [listen_eq]
        rfl
      · rw [listen_eq]
  | unfit | unsent =>
      exact .mute (methodsIn_of_unwritten (writtenIn_failGreeting _ _)) writer_failGreeting
  | refused hstage hpoll =>
      exact .mute (methodsIn_of_unwritten (writtenIn_failGreeting _ _)) writer_failGreeting
  | @greet connection params effect hstage hprofile hsend =>
      rw [hstage] at hat hupkeep
      obtain ⟨found, hwriter, rfl⟩ := send_eq_ok hsend
      obtain rfl := Option.some.inj (hwriter.symm.trans hupkeep.1.writer)
      have hgreeting := hset { steward with
        stage := .greeting found (.number session.nextRequest) (around.now + greetingTimeout) } rfl
        rfl
      exact .greet hmove rfl rfl hat hgreeting hcall
  | @welcomed connection request deadline next answer welcome effect lines hstage hpoll hconfirm =>
      rw [hstage] at hat hupkeep
      obtain ⟨hwelcome, hnotify⟩ := confirm_eq_ok hconfirm
      obtain ⟨value, hanswer⟩ := exists_of_welcomeOf hwelcome
      have hgrants := grants_of_poll hpoll hanswer
      obtain ⟨pending, settled, rfl, -⟩ := poll_eq hpoll
      obtain ⟨found, hwriter, hmethods⟩ := methodsIn_notify (lines.map Effect.log) hnotify
      obtain rfl := Option.some.inj (hwriter.symm.trans hupkeep.1.writer)
      rw [methodsIn_of_unwritten (writtenIn_logs lines)] at hmethods
      have hserving := hset { steward with stage := .serving found, announced := true } rfl rfl
      exact .confirm hmove hmethods hgrants rfl hat hserving hcall
  | lose => exact .mute (methodsIn_of_unwritten (writtenIn_hangUps _)) rfl
  | retire hstage =>
      rw [hstage] at hupkeep
      exact .mute (methodsIn_of_unwritten (writtenIn_logs _)) hupkeep.1.writer
  | resign hstage | exhaust hstage | reconnect hstage =>
      rw [hstage] at hupkeep
      exact .mute rfl hupkeep.1.writer

theorem writer_abandonTasks (session : Session) :
    session.abandonTasks.writer = session.writer := by
  rw [abandonTasks_eq]

theorem CallTurn.speech (hturn : CallTurn around session outcome) (hmove : move.isWish = false)
    (htenure : session.Tenure) : Speech session move outcome := by
  have hnone (hgone : session.stewards = []) : session.writer = none :=
    (htenure.toGuided.offline_of_none hgone).writer
  cases hturn with
  | started hcall => exact .stay rfl rfl rfl (by rw [shutdown?_eq, shutdown?_eq, hcall])
  | @failed id failure hcall hready =>
      refine .mute rfl ((writer_abandonTasks _).trans (hnone ?_))
      exact htenure.parting id hcall (.inl ⟨failure, Ledger.mem_of_lookup hready⟩)
  | @orphaned id hcall hready hgone =>
      exact .mute rfl
        ((writer_abandonTasks _).trans (hnone (htenure.parting id hcall (.inr hgone))))
  | refused => exact .mute (methodsIn_of_unwritten (writtenIn_concludeStop _)) rfl
  | @agreed request deadline next answer effect hcall hpoll hleave =>
      obtain ⟨value, hanswer, hnotify⟩ := takeLeave_eq_ok hleave
      have hgrants := grants_of_poll hpoll hanswer
      obtain ⟨pending, settled, rfl, -⟩ := poll_eq hpoll
      obtain ⟨connection, hwriter, hmethods⟩ := methodsIn_notify _ hnotify
      rw [methodsIn_of_unwritten (writtenIn_concludeStop _)] at hmethods
      exact .exit hmove (by rw [shutdown?_eq, hcall]) hmethods hgrants hwriter rfl

/-- What every move says. -/
theorem speech_of_next? (hnext : session.next? move = some outcome) (htenure : session.Tenure)
    (hsettling : session.Settling) : Speech session move outcome := by
  have hguided := htenure.toGuided
  have hnone (hconnecting : session.call = .connecting) : session.writer = none :=
    (hguided.offline_of_none (hguided.sole.2 hconnecting)).writer
  cases next?_passage hnext with
  | start hidle => exact .stay rfl rfl rfl (by rw [shutdown?_eq, shutdown?_eq, hidle]; rfl)
  | stopDead | stopUnsent => exact .mute (methodsIn_of_unwritten (writtenIn_concludeStop _)) rfl
  | stop hidle halive hsend =>
      obtain ⟨connection, hwriter, rfl⟩ := send_eq_ok hsend
      exact .shutdown rfl (by rw [shutdown?_eq, hidle]) rfl hwriter rfl rfl rfl
  | abandon => exact .mute (methodsIn_of_unwritten (writtenIn_hangUps _)) rfl
  | openDocument =>
      obtain ⟨-, hsilent | ⟨connection, params, hwriter, hsent⟩⟩ := next?_openDocument hnext
      · refine .stay ?_ rfl rfl rfl
        rw [hsilent]
        rfl
      · refine .openDocument rfl ?_ hwriter rfl
        rw [hsent]
        rfl
  | steward hsteward hturn => exact hturn.speech rfl hsteward hguided hsettling
  | reader hreader hexit hconnection hturn =>
      obtain ⟨pending, settled, hafter, -⟩ := hturn.frame hexit
      refine .stay hturn.methodsIn_eq_nil ?_ ?_ ?_ <;> rw [hafter] <;> rfl
  | call hturn => exact hturn.speech rfl htenure
  | supplyStart hcall | refuseStart hcall => exact .mute rfl (hnone hcall)
  | resupply hsteward hstage | refuse hsteward hstage =>
      exact .mute rfl (hguided.offline_of_awaits hsteward hstage).writer

end Speaking

end NplLifecycle.Session
