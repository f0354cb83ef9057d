import NplLifecycle.Proofs.Session.Ledger
import NplLifecycle.Proofs.Session.Move

/-!
# The journal of a session

What a move means for the requests of a session is a list of entries: which request is made, which
response a reader hands over, whether the session is closed, and which request is over.  The
session's own books change as the entries say.
-/

namespace NplLifecycle.Session

def ledger (session : Session) : Ledger :=
  ⟨session.nextRequest, session.pending, session.settled⟩

def Reading.response? : Reading → Option Response
  | .handle (.ok body) _ =>
    match Message.decode body with
    | .ok (.response response) => some response
    | _ => none
  | _ => none

/-- The response that the reader of a connection hands over in its next turn. -/
def heard? (around : Surroundings) (session : Session) (connection : ConnectionId) :
    Option Response :=
  (session.reading? around connection).bind fun (_, reading) => reading.response?

/-- A request is made; one that cannot be sent is over at once, and its maker closes the session. -/
def requestEntries (around : Surroundings) (session : Session) (method : String) (params : Json) :
    List Entry :=
  .asked (.number session.nextRequest) ::
    match session.sendRequest around method params with
    | .error failure => [.returned (.number session.nextRequest) (.error failure), .closed]
    | .ok _ => []

def stewardEntries (around : Surroundings) (session : Session) (steward : Steward) : List Entry :=
  match steward.stage with
  | .listening _ =>
    match session.profile.handshake with
    | .error _ => [.closed]
    | .ok params => session.requestEntries around greetingMethod params
  | .greeting _ request deadline =>
    match session.poll around greetingMethod request deadline greetingTimeout with
    | none => []
    | some (next, answer) =>
      .returned request answer ::
        match next.confirm around answer with
        | .error _ => [.closed]
        | .ok _ => []
  | .serving connection =>
    if ((session.reader? connection).bind Reader.exit).isSome then [.closed] else []
  | _ => []

def callEntries (around : Surroundings) (session : Session) : List Entry :=
  match session.call with
  | .stopping request deadline =>
    match session.poll around shutdownMethod request deadline shutdownTimeout with
    | none => []
    | some (_, answer) => [.returned request answer, .closed]
  | _ => []

def entries (session : Session) : Move → List Entry
  | .start | .openDocument .. | .supply .. => []
  | .stop around =>
    if session.alive then session.requestEntries around shutdownMethod .null else [.closed]
  | .abandon => [.closed]
  | .task around .call => session.callEntries around
  | .task around (.steward id) =>
    (session.steward? id).elim [] fun steward => session.stewardEntries around steward
  | .task around (.reader connection) =>
    (session.heard? around connection).toList.map Entry.heard

def Steward.request? (steward : Steward) : Option RequestId :=
  match steward.stage with
  | .greeting _ request _ => some request
  | _ => none

def requestOf (session : Session) : Task → Option RequestId
  | .call =>
    match session.call with
    | .stopping request _ => some request
    | _ => none
  | .steward id => (session.steward? id).bind Steward.request?
  | .reader _ => none

/-- The task that makes a move; what only the owner does counts as the owner's call. -/
def Move.maker : Move → Task
  | .task _ whose => whose
  | _ => .call

/-- Each task waits for a request of its own, which is in the books. -/
structure Waiting (session : Session) : Prop where
  distinct : ∀ task other id, session.requestOf task = some id →
    session.requestOf other = some id → task = other
  known : ∀ task id, session.requestOf task = some id → session.ledger.Knows id

/-- Whoever waits after a move has waited before for a request that is not over, or is the one who
made a request in this move. -/
def Hands (session : Session) (maker : Task) (entries : List Entry) (after : Session) : Prop :=
  ∀ task id, after.requestOf task = some id → id ∉ returnedIn entries ∧
    (session.requestOf task = some id ∨ task = maker ∧ id ∈ askedIn entries)

section Books

variable {session next after : Session} {around : Surroundings} {journal entries : List Entry}
  {steward : Steward} {maker : Task} {id : StewardId} {request : RequestId}
  {outcome : Session × List Effect}

@[simp]
theorem ledger_failGreeting (connection : ConnectionId) (failure : ClientError) :
    (session.failGreeting steward connection failure).1.ledger = session.ledger.close := by
  rw [failGreeting_eq]
  rfl

@[simp]
theorem ledger_listen (connection : ConnectionId) :
    (session.listen steward connection).1.ledger = session.ledger := by
  simp only [listen]
  cases session.reader <;> rfl

@[simp]
theorem ledger_abandonTasks : session.abandonTasks.ledger = session.ledger := by
  rw [abandonTasks_eq]
  rfl

@[simp]
theorem ledger_concludeStop (result : Except ClientError Unit) :
    (session.concludeStop result).1.ledger = session.ledger.close := by
  have hclose : (session.concludeStop result).1.ledger = session.abandonTasks.ledger.close := rfl
  rw [hclose, ledger_abandonTasks]

theorem ledger_handleResponse (response : Response) :
    (session.handleResponse response).1.ledger = session.ledger.hear response := by
  cases hid : response.id with
  | none => simp [handleResponse, Ledger.hear, hid]
  | some id =>
      by_cases hwaits : id ∈ session.pending
      · simp [handleResponse, Ledger.hear, hid, ledger, hwaits]
      · simp [handleResponse, Ledger.hear, hid, ledger, hwaits]

theorem requestOf_congr (hcall : after.call = session.call)
    (hstewards : after.stewards = session.stewards) : after.requestOf = session.requestOf := by
  funext task
  simp only [requestOf, hcall, steward?, hstewards]

theorem requestOf_handleResponse (session : Session) (response : Response) :
    (session.handleResponse response).1.requestOf = session.requestOf := by
  have hframe : (session.handleResponse response).1.call = session.call ∧
      (session.handleResponse response).1.stewards = session.stewards := by
    simp only [handleResponse]
    split
    · exact ⟨rfl, rfl⟩
    · split <;> exact ⟨rfl, rfl⟩
  exact requestOf_congr hframe.1 hframe.2

/-- Who asks after its request with success finds the request over. -/
theorem steps_poll {method : String} {deadline timeout : Nat}
    {answer : Except ClientError Response} (hknown : session.ledger.Knows request)
    (hpoll : session.poll around method request deadline timeout = some (next, answer)) :
    session.ledger.Step (.returned request answer) next.ledger := by
  rcases poll_cases hpoll with ⟨settled, hlookup, rfl, rfl⟩ | ⟨hlookup, -, rfl, rfl⟩
  · cases settled with
    | none => exact .dropped hlookup
    | some response => exact .answered hlookup
  · refine .failed _ ?_
    refine hknown.elim (fun hwaits => hwaits) ?_
    intro hkeys
    obtain ⟨settled, hmem, rfl⟩ := List.mem_map.mp hkeys
    exact absurd (List.lookup_eq_none_iff.mp hlookup settled hmem) (by simp)

theorem requestOf_setSteward (session : Session) (steward : Steward) (task : Task) :
    (session.setSteward steward).requestOf task =
      if task = .steward steward.id then
        (session.steward? steward.id).bind fun _ => steward.request?
      else session.requestOf task := by
  cases task with
  | call => rfl
  | reader connection => rfl
  | steward id =>
      simp only [requestOf, steward?_setSteward, Task.steward.injEq]
      split
      · rename_i hid
        rw [hid, Option.bind_map]
        rfl
      · rfl

theorem requestOf_dropSteward (session : Session) (id : StewardId) (task : Task) :
    (session.dropSteward id).requestOf task =
      if task = .steward id then none else session.requestOf task := by
  cases task with
  | call => rfl
  | reader connection => rfl
  | steward other =>
      simp only [requestOf, steward?_dropSteward, Task.steward.injEq]
      split <;> rfl

theorem requestOf_failGreeting (connection : ConnectionId) (failure : ClientError) (task : Task) :
    (session.failGreeting steward connection failure).1.requestOf task =
      if task = .steward steward.id then none else session.requestOf task := by
  rw [failGreeting_eq]
  exact requestOf_dropSteward (session.cancelReader connection).close.1 steward.id task

theorem requestOf_abandonTasks {task : Task}
    (hwaits : session.abandonTasks.requestOf task = some request) :
    session.requestOf task = some request := by
  cases task with
  | call =>
      rw [← hwaits]
      simp only [requestOf, abandonTasks_call]
  | reader connection => simp [requestOf] at hwaits
  | steward other =>
      cases hlast : session.steward with
      | none =>
          have hsame : session.abandonTasks.stewards = session.stewards := by
            rw [abandonTasks_eq]
            exact List.filter_eq_self.mpr (by simp [hlast])
          simpa only [requestOf, steward?, hsame] using hwaits
      | some id =>
          have hsame : session.abandonTasks.stewards = (session.dropSteward id).stewards := by
            rw [abandonTasks_eq]
            simp [hlast, dropSteward, eq_comm]
          have hdropped : (session.dropSteward id).requestOf (.steward other) = some request := by
            simpa only [requestOf, steward?, hsame] using hwaits
          rw [requestOf_dropSteward] at hdropped
          exact (Option.ite_none_left_eq_some.mp hdropped).2

/-- The maker of a move waits for nothing after it, and no other task for another request than
before. -/
def Quits (session : Session) (maker : Task) (after : Session) : Prop :=
  ∀ task request, after.requestOf task = some request →
    task ≠ maker ∧ session.requestOf task = some request

/-- Where the owner's call waits for no response, only the stewards do. -/
theorem quits_of_stewards (session : Session) (hcall : after.requestOf .call = none)
    (hstewards : after.stewards = session.stewards) : session.Quits .call after := by
  intro task request hwaits
  cases task with
  | call => exact absurd hwaits (by simp [hcall])
  | reader connection => simp [requestOf] at hwaits
  | steward id =>
      simp only [requestOf, steward?, hstewards] at hwaits ⊢
      exact ⟨by simp, hwaits⟩

theorem Quits.of_abandonTasks (hquits : session.abandonTasks.Quits maker after) :
    session.Quits maker after := by
  intro task request hwaits
  obtain ⟨hother, hold⟩ := hquits task request hwaits
  exact ⟨hother, requestOf_abandonTasks hold⟩

theorem quits_of_concludeStop (session : Session) (result : Except ClientError Unit) :
    session.Quits .call (session.concludeStop result).1 :=
  Quits.of_abandonTasks (quits_of_stewards session.abandonTasks rfl rfl)

theorem quits_of_failStart (session : Session) (failure : ClientError) :
    session.Quits .call (session.abandonTasks.failStart failure).1 :=
  Quits.of_abandonTasks (quits_of_stewards session.abandonTasks rfl rfl)

theorem quits_of_setSteward (changed : Steward) (hid : changed.id = id)
    (hcall : after.call = session.call)
    (hstewards : after.stewards = (session.setSteward changed).stewards)
    (hidle : changed.request? = none) : session.Quits (.steward id) after := by
  intro task request hwaits
  have hsame : after.requestOf = (session.setSteward changed).requestOf :=
    requestOf_congr hcall hstewards
  rw [hsame, requestOf_setSteward, hid] at hwaits
  split at hwaits
  · cases hfound : session.steward? id with
    | none => simp [hfound] at hwaits
    | some old => simp [hfound, hidle] at hwaits
  · exact ⟨‹_›, hwaits⟩

theorem quits_of_dropSteward : session.Quits (.steward id) (session.dropSteward id) := by
  intro task request hwaits
  rw [requestOf_dropSteward] at hwaits
  exact Option.ite_none_left_eq_some.mp hwaits

theorem quits_of_failGreeting (session : Session) (steward : Steward) (connection : ConnectionId)
    (failure : ClientError) :
    session.Quits (.steward steward.id)
      (session.failGreeting steward connection failure).1 := by
  intro task request hwaits
  rw [requestOf_failGreeting] at hwaits
  exact Option.ite_none_left_eq_some.mp hwaits

theorem Quits.congr (hcall : next.call = session.call)
    (hstewards : next.stewards = session.stewards) (hquits : next.Quits maker after) :
    session.Quits maker after := by
  have hsame : next.requestOf = session.requestOf := requestOf_congr hcall hstewards
  intro task request hwaits
  rw [← hsame]
  exact hquits task request hwaits

/-- Who quits hands nothing on, as long as no request of another task is over. -/
theorem Quits.hands (hquits : session.Quits maker after)
    (hothers : ∀ task request, task ≠ maker → session.requestOf task = some request →
      request ∉ returnedIn entries) : session.Hands maker entries after := by
  intro task request hwaits
  obtain ⟨hother, hold⟩ := hquits task request hwaits
  exact ⟨hothers task request hother hold, .inl hold⟩

/-- Where nothing is over and nobody begins to wait. -/
theorem hands_of_subset (hreturned : returnedIn entries = [])
    (hsubset : ∀ task request, after.requestOf task = some request →
      session.requestOf task = some request) : session.Hands maker entries after :=
  fun task request hwaits => ⟨by simp [hreturned], .inl (hsubset task request hwaits)⟩

theorem Quits.hands_of_none (hquits : session.Quits maker after)
    (hreturned : returnedIn entries = []) : session.Hands maker entries after :=
  hands_of_subset hreturned fun task request hwaits => (hquits task request hwaits).2

/-- Journal and books stay in agreement, and each task goes on waiting for a request of its own. -/
theorem Waiting.kept (hwaiting : session.Waiting) (hsound : Ledger.Sound journal session.ledger)
    (hsteps : session.ledger.Steps entries after.ledger)
    (hhands : session.Hands maker entries after) : after.Waiting where
  known := by
    intro task request hwaits
    obtain ⟨hnot, hold | ⟨-, hnew⟩⟩ := hhands task request hwaits
    · exact hsteps.knows (hwaiting.known task request hold) hnot
    · exact hsteps.knows_of_asked hnew hnot
  distinct := by
    have hmade : ∀ task request, session.requestOf task = some request →
        request ∉ askedIn entries := by
      intro task request hwaits hnew
      have hdistinct := (hsound.steps hsteps).distinct
      rw [askedIn_append, List.nodup_append] at hdistinct
      have hold := hsound.asked_of_knows (hwaiting.known task request hwaits)
      exact hdistinct.2.2 request hold request hnew rfl
    intro task other request htask hother
    obtain ⟨-, hold | ⟨rfl, hnew⟩⟩ := hhands task request htask
    · obtain ⟨-, hold' | ⟨-, hnew⟩⟩ := hhands other request hother
      · exact hwaiting.distinct task other request hold hold'
      · exact absurd hnew (hmade task request hold)
    · obtain ⟨-, hold | ⟨rfl, -⟩⟩ := hhands other request hother
      · exact absurd hnew (hmade other request hold)
      · rfl

end Books

section Moves

variable {session : Session} {around : Surroundings} {journal : List Entry} {steward : Steward}
  {id : StewardId} {request : RequestId} {maker : Task} {move : Move}
  {outcome : Session × List Effect}

/-- No other task waits for the request that one waits for. -/
theorem Waiting.others (hwaiting : session.Waiting)
    (hmaker : session.requestOf maker = some request) (result : Except ClientError Response)
    (rest : List Entry) (hrest : returnedIn rest = []) (task : Task) (other : RequestId)
    (hne : task ≠ maker) (hwaits : session.requestOf task = some other) :
    other ∉ returnedIn (.returned request result :: rest) := by
  rw [← List.singleton_append, returnedIn_append, hrest]
  simp only [returnedIn_singleton, Entry.returned?, Option.toList_some, List.append_nil,
    List.mem_singleton]
  rintro rfl
  exact hne (hwaiting.distinct task maker other hwaits hmaker)

/-- No task waits for the request that is made next. -/
theorem Waiting.not_next (hwaiting : session.Waiting)
    (hsound : Ledger.Sound journal session.ledger) (failure : ClientError) (task : Task)
    (other : RequestId) (hwaits : session.requestOf task = some other) :
    other ∉ returnedIn [.asked (.number session.nextRequest),
      .returned (.number session.nextRequest) (.error failure), .closed] := by
  have hne : other ≠ .number session.nextRequest :=
    hsound.ne_next (hwaiting.known task other hwaits)
  simpa [returnedIn, Entry.returned?] using hne.symm

/-- Who learns what has come of its request waits no longer, whatever else it does then. -/
theorem books_answered {next after : Session} {method : String} {deadline timeout : Nat}
    {answer : Except ClientError Response} {rest : List Entry} (hwaiting : session.Waiting)
    (hmaker : session.requestOf maker = some request)
    (hpoll : session.poll around method request deadline timeout = some (next, answer))
    (hsteps : next.ledger.Steps rest after.ledger) (hquits : next.Quits maker after)
    (hrest : returnedIn rest = []) :
    session.ledger.Steps (.returned request answer :: rest) after.ledger ∧
      session.Hands maker (.returned request answer :: rest) after := by
  obtain ⟨hcall, hstewards⟩ := poll_frame hpoll
  constructor
  · exact .cons (steps_poll (hwaiting.known maker request hmaker) hpoll) hsteps
  · apply (hquits.congr hcall hstewards).hands
    exact hwaiting.others hmaker answer rest hrest

/-- A request that cannot be sent is over at once, and the session is closed. -/
theorem books_unsent {after : Session} (failure : ClientError) (hwaiting : session.Waiting)
    (hsound : Ledger.Sound journal session.ledger) (hquits : session.Quits maker after)
    (hclosed : after.ledger = session.counted.ledger.close) :
    session.ledger.Steps [.asked (.number session.nextRequest),
        .returned (.number session.nextRequest) (.error failure), .closed] after.ledger ∧
      session.Hands maker [.asked (.number session.nextRequest),
        .returned (.number session.nextRequest) (.error failure), .closed] after := by
  constructor
  · rw [hclosed]
    exact hsound.steps_unsent failure
  · apply hquits.hands
    exact fun task other _ => hwaiting.not_next hsound failure task other

theorem quits_of_listen (session : Session) (steward : Steward) (connection : ConnectionId) :
    session.Quits (.steward steward.id) (session.listen steward connection).1 := by
  rw [listen_eq]
  exact quits_of_setSteward { steward with stage := .listening connection } rfl rfl rfl rfl

/-- Who greets the server begins to wait for the response. -/
theorem hands_greet (session : Session) (steward : Steward) (connection : ConnectionId)
    (deadline : Nat) :
    session.Hands (.steward steward.id) [.asked (.number session.nextRequest)]
      (session.enrolled.setSteward { steward with
        stage := .greeting connection (.number session.nextRequest) deadline }) := by
  intro task request hwaits
  refine ⟨by simp [returnedIn, Entry.returned?], ?_⟩
  rw [requestOf_setSteward] at hwaits
  split at hwaits
  · rename_i htask
    obtain ⟨-, -, hrequest⟩ := Option.bind_eq_some_iff.mp hwaits
    exact .inr ⟨htask, by simpa [Steward.request?, askedIn, Entry.asked?] using hrequest.symm⟩
  · exact .inl hwaits

/-- A steward's turn does to the books what its entries say. -/
theorem StewardTurn.books (hturn : StewardTurn around session steward outcome)
    (hsteward : session.steward? id = some steward) (hwaiting : session.Waiting)
    (hsound : Ledger.Sound journal session.ledger) :
    session.ledger.Steps (session.stewardEntries around steward) outcome.1.ledger ∧
      session.Hands (.steward id) (session.stewardEntries around steward) outcome.1 := by
  obtain ⟨-, rfl⟩ := steward?_eq_some hsteward
  -- Only a steward that greets the server waits for a request, and only then one can be over.
  have hmaker {connection : ConnectionId} {request : RequestId} {deadline : Nat}
      (hstage : steward.stage = .greeting connection request deadline) :
      session.requestOf (.steward steward.id) = some request := by
    simp [requestOf, hsteward, Steward.request?, hstage]
  cases hturn with
  | @attach connection hstage =>
      simp only [stewardEntries, hstage]
      refine ⟨.nil _, Quits.hands_of_none ?_ rfl⟩
      exact quits_of_setSteward { steward with stage := .attached connection } rfl rfl rfl rfl
  | listen hstage =>
      simp only [stewardEntries, hstage, ledger_listen]
      exact ⟨.nil _, (session.quits_of_listen steward _).hands_of_none rfl⟩
  | unfit hstage hprofile =>
      simp only [stewardEntries, hstage, hprofile, ledger_failGreeting]
      exact ⟨Ledger.Step.single .closed, (quits_of_failGreeting _ _ _ _).hands_of_none rfl⟩
  | @unsent connection _ failure hstage hprofile hsend =>
      simp only [stewardEntries, hstage, hprofile, requestEntries, hsend]
      have hquits := session.counted.quits_of_failGreeting steward connection failure
      exact books_unsent failure hwaiting hsound hquits (ledger_failGreeting _ _)
  | greet hstage hprofile hsend =>
      simp only [stewardEntries, hstage, hprofile, requestEntries, hsend]
      exact ⟨Ledger.Step.single .asked, session.hands_greet steward _ _⟩
  | @refused _ _ _ next _ failure hstage hpoll hconfirm =>
      simp only [stewardEntries, hstage, hpoll, hconfirm]
      apply books_answered hwaiting (hmaker hstage) hpoll _ (next.quits_of_failGreeting _ _ _) rfl
      rw [ledger_failGreeting]
      exact Ledger.Step.single .closed
  | @welcomed connection _ _ _ _ _ _ _ hstage hpoll hconfirm =>
      simp only [stewardEntries, hstage, hpoll, hconfirm]
      refine books_answered hwaiting (hmaker hstage) hpoll (.nil _) ?_ rfl
      exact quits_of_setSteward { steward with stage := .serving connection, announced := true }
        rfl rfl rfl rfl
  | @lose _ exit hstage hexit =>
      simp only [stewardEntries, hstage, hexit, Option.isSome_some, if_true]
      refine ⟨Ledger.Step.single .closed, Quits.hands_of_none ?_ rfl⟩
      exact quits_of_setSteward { steward with stage := .bereft exit } rfl rfl rfl rfl
  | retire hstage | resign hstage | exhaust hstage =>
      simp only [stewardEntries, hstage]
      exact ⟨.nil _, quits_of_dropSteward.hands_of_none rfl⟩
  | reconnect hstage =>
      simp only [stewardEntries, hstage]
      refine ⟨.nil _, Quits.hands_of_none ?_ rfl⟩
      exact quits_of_setSteward { steward with
        stage := .reconnecting, restarts := steward.restarts + 1 } rfl rfl rfl rfl

theorem response?_of_told {found : Frame.Outcome} {rest : List UInt8} {count : Nat}
    {message : Message} (htold : told found count = .ok message) :
    (Reading.handle found rest).response? = match message with
      | .response response => some response
      | _ => none := by
  obtain ⟨body, rfl, hdecode⟩ := told_eq_ok.mp htold
  simp only [Reading.response?, hdecode]
  cases message <;> rfl

theorem response?_of_fault {found : Frame.Outcome} {rest : List UInt8} {count : Nat}
    {event : ConnectionEvent} (htold : told found count = .error event) :
    (Reading.handle found rest).response? = none := by
  cases found with
  | error fault => rfl
  | ok body => cases hdecode : Message.decode body <;> simp_all [Reading.response?, told]

/-- A reader's turn enters the response that it hands over, if any. -/
theorem ReaderTurn.books {reader changed : Reader} {reading : Reading}
    (hturn : ReaderTurn around session reader reading changed outcome) :
    session.ledger.Steps (reading.response?.toList.map Entry.heard) outcome.1.ledger ∧
      outcome.1.requestOf = session.requestOf := by
  have hsame : (session.setReader changed).requestOf = session.requestOf := requestOf_congr rfl rfl
  cases hturn with
  | cancelled | bytes | finish | failure => exact ⟨.nil _, hsame⟩
  | fault _ _ htold =>
      rw [response?_of_fault htold]
      exact ⟨.nil _, hsame⟩
  | @message found rest message _ _ htold =>
      rw [response?_of_told htold]
      cases message with
      | request request => exact ⟨.nil _, hsame⟩
      | notification notification => exact ⟨.nil _, hsame⟩
      | response response =>
          refine ⟨?_, requestOf_handleResponse _ response⟩
          rw [dispatch, ledger_handleResponse]
          exact Ledger.Step.single (.heard response)

theorem ledger_failStart (failure : ClientError) :
    (session.abandonTasks.failStart failure).1.ledger = session.ledger := by
  have hsame : (session.abandonTasks.failStart failure).1.ledger =
      session.abandonTasks.ledger := rfl
  rw [hsame, ledger_abandonTasks]

theorem callEntries_of_starting (hcall : session.call = .starting id) :
    session.callEntries around = [] := by
  rw [callEntries, hcall]

/-- A stop that has its answer is over, and the session is closed. -/
theorem books_concludeStop {next : Session} {deadline : Nat}
    {answer : Except ClientError Response} (result : Except ClientError Unit)
    (hwaiting : session.Waiting) (hcall : session.call = .stopping request deadline)
    (hpoll : session.poll around shutdownMethod request deadline shutdownTimeout =
      some (next, answer)) :
    session.ledger.Steps (session.callEntries around) (next.concludeStop result).1.ledger ∧
      session.Hands .call (session.callEntries around) (next.concludeStop result).1 := by
  have hmaker : session.requestOf .call = some request := by simp [requestOf, hcall]
  simp only [callEntries, hcall, hpoll]
  apply books_answered hwaiting hmaker hpoll _ (next.quits_of_concludeStop result) rfl
  rw [ledger_concludeStop]
  exact Ledger.Step.single .closed

/-- A turn of the owner's call does to the books what its entries say. -/
theorem CallTurn.books (hturn : CallTurn around session outcome) (hwaiting : session.Waiting) :
    session.ledger.Steps (session.callEntries around) outcome.1.ledger ∧
      session.Hands .call (session.callEntries around) outcome.1 := by
  cases hturn with
  | started hcall =>
      rw [callEntries_of_starting hcall]
      exact ⟨.nil _, Quits.hands_of_none (quits_of_stewards session rfl rfl) rfl⟩
  | @failed id failure hcall =>
      have hquits : session.Quits .call
          (Session.failStart { session with
            ready := session.ready.filter (·.1 ≠ id) }.abandonTasks failure).1 :=
        (quits_of_failStart _ failure).congr rfl rfl
      rw [callEntries_of_starting hcall, ledger_failStart]
      exact ⟨.nil _, hquits.hands_of_none rfl⟩
  | orphaned hcall =>
      rw [callEntries_of_starting hcall, ledger_failStart]
      exact ⟨.nil _, (quits_of_failStart _ _).hands_of_none rfl⟩
  | refused hcall hpoll =>
      exact books_concludeStop _ hwaiting hcall hpoll
  | agreed hcall hpoll =>
      exact books_concludeStop (.ok ()) hwaiting hcall hpoll

theorem requestOf_supplyStart {connection : ConnectionId} {task : Task}
    (hwaits : (session.supplyStart (.ok connection)).1.requestOf task = some request) :
    session.requestOf task = some request := by
  cases task with
  | call => simp [requestOf, supplyStart] at hwaits
  | reader connection => simp [requestOf] at hwaits
  | steward id =>
      simp only [requestOf, steward?, supplyStart, List.find?_append] at hwaits ⊢
      cases hold : session.stewards.find? (·.id = id) with
      | some steward => simpa [hold] using hwaits
      | none =>
          rw [hold, Option.none_or, List.find?_singleton] at hwaits
          split at hwaits
          · simp [Steward.request?] at hwaits
          · simp at hwaits

/-- A move does to the books what its entries say, and only its maker begins to wait. -/
theorem Passage.books (hpassage : Passage session move outcome) (hwaiting : session.Waiting)
    (hsound : Ledger.Sound journal session.ledger) :
    session.ledger.Steps (session.entries move) outcome.1.ledger ∧
      session.Hands move.maker (session.entries move) outcome.1 := by
  cases hpassage with
  | start hidle =>
      have hquits : session.Quits .call session.beginStart.1 :=
        quits_of_stewards session rfl rfl
      exact ⟨.nil _, hquits.hands_of_none rfl⟩
  | stopDead hidle halive =>
      have hquits := session.halting.quits_of_concludeStop (.ok ())
      simp only [entries, halive]
      refine ⟨?_, (hquits.congr rfl rfl).hands_of_none rfl⟩
      rw [ledger_concludeStop]
      exact Ledger.Step.single .closed
  | @stopUnsent around failure hidle halive hsend =>
      have hquits := session.halting.counted.quits_of_concludeStop (.error failure)
      simp only [entries, halive, if_true, requestEntries, hsend]
      exact books_unsent failure hwaiting hsound (hquits.congr rfl rfl) (ledger_concludeStop _)
  | stop hidle halive hsend =>
      simp only [entries, halive, if_true, requestEntries, hsend]
      refine ⟨Ledger.Step.single .asked, ?_⟩
      intro task request hwaits
      refine ⟨by simp [returnedIn, Entry.returned?], ?_⟩
      cases task with
      | call =>
          refine .inr ⟨rfl, ?_⟩
          simpa [requestOf, askedIn, Entry.asked?] using hwaits.symm
      | reader connection => simp [requestOf] at hwaits
      | steward id => exact .inl hwaits
  | abandon =>
      have hledger : session.abandon.1.ledger = session.abandonTasks.ledger.close := rfl
      refine ⟨?_, hands_of_subset rfl fun task request hwaits => requestOf_abandonTasks hwaits⟩
      rw [hledger, ledger_abandonTasks]
      exact Ledger.Step.single .closed
  | openDocument => exact ⟨.nil _, hands_of_subset rfl fun _ _ hwaits => hwaits⟩
  | @steward around id steward outcome hsteward hturn =>
      simp only [entries, hsteward, Option.elim_some]
      exact hturn.books hsteward hwaiting hsound
  | reader hreader hexit hconnection hturn =>
      obtain ⟨hsteps, hsame⟩ := hturn.books
      simp only [entries, heard?, hturn.reading?_eq hreader hexit, Option.bind_some]
      refine ⟨hsteps, hands_of_subset ?_ fun task request hwaits => hsame ▸ hwaits⟩
      cases Reading.response? _ <;> rfl
  | call hturn => exact hturn.books hwaiting
  | supplyStart => exact ⟨.nil _, hands_of_subset rfl fun _ _ => requestOf_supplyStart⟩
  | refuseStart => exact ⟨.nil _, Quits.hands_of_none (quits_of_stewards session rfl rfl) rfl⟩
  | @resupply id steward connection hsteward =>
      obtain ⟨-, rfl⟩ := steward?_eq_some hsteward
      have hquits : session.Quits (.steward steward.id)
          (session.setSteward { steward with stage := .connected connection }) :=
        quits_of_setSteward { steward with stage := .connected connection } rfl rfl rfl rfl
      exact ⟨.nil _, hands_of_subset rfl fun task request hwaits => (hquits task request hwaits).2⟩
  | @refuse id steward =>
      have hquits : session.Quits (.steward id) (session.dropSteward id) := quits_of_dropSteward
      exact ⟨.nil _, hands_of_subset rfl fun task request hwaits => (hquits task request hwaits).2⟩

end Moves

end NplLifecycle.Session
