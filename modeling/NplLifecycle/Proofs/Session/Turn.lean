import Mathlib.Data.Bool.Basic
import NplLifecycle.Proofs.Session.Over

/-!
# Turns of a session's tasks

What a steward, a reader or the owner's call can do in one turn is said once, as a list of cases.
Each case names what must be so before the turn, and gives the session after it and what the turn
asks of the world.  What is true of every turn is read off the cases.
-/

namespace NplLifecycle.Session

/-- A session that has made a request which could not be sent. -/
def counted (session : Session) : Session :=
  { session with nextRequest := session.nextRequest + 1 }

/-- A session that has made a request and waits for the response. -/
def enrolled (session : Session) : Session :=
  { session.counted with pending := session.pending ++ [.number session.nextRequest] }

def sendRequest (around : Surroundings) (session : Session) (method : String) (params : Json) :
    Except ClientError Effect :=
  session.send around (.request (.ofClient (.number session.nextRequest) method params))

def confirm (around : Surroundings) (session : Session) (answer : Except ClientError Response) :
    Except ClientError (Welcome × Effect) :=
  (welcomeOf answer).bind fun welcome =>
    (session.notify around "initialized" (.obj [])).map fun effect => (welcome, effect)

def takeLeave (around : Surroundings) (session : Session) (answer : Except ClientError Response) :
    Except ClientError Effect :=
  (answer.bind resultOf).bind fun _ => session.notify around "exit" .null

/-- How a fault leaves the reader that reports it. -/
def exitAfter : Decision → Option ReaderExit
  | .proceed => none
  | .abort => some .aborted

/-- What the owner's start has not heard of yet. -/
def news (steward : Steward) (result : Except ClientError Welcome) :
    List (StewardId × Except ClientError Welcome) :=
  if steward.announced then [] else [(steward.id, result)]

/-! What is found in a session after a change of one of its tasks. -/

section Lookups

variable {session : Session} {id : StewardId} {connection : ConnectionId}

theorem steward?_eq_some {steward : Steward} (hsteward : session.steward? id = some steward) :
    steward ∈ session.stewards ∧ steward.id = id :=
  ⟨List.mem_of_find?_eq_some hsteward, by simpa using List.find?_some hsteward⟩

theorem reader?_eq_some {reader : Reader} (hreader : session.reader? connection = some reader) :
    reader ∈ session.readers ∧ reader.connection = connection :=
  ⟨List.mem_of_find?_eq_some hreader, by simpa using List.find?_some hreader⟩

theorem steward?_setSteward (session : Session) (steward : Steward) (id : StewardId) :
    (session.setSteward steward).steward? id =
      if id = steward.id then (session.steward? id).map fun _ => steward
      else session.steward? id := by
  simp only [steward?, setSteward]
  induction session.stewards with
  | nil => simp
  | cons first rest ih =>
      rw [List.map_cons, List.find?_cons, List.find?_cons, ih]
      by_cases hfirst : first.id = steward.id <;> by_cases hid : id = steward.id <;>
        grind

theorem steward?_dropSteward (session : Session) (dropped id : StewardId) :
    (session.dropSteward dropped).steward? id =
      if id = dropped then none else session.steward? id := by
  simp only [steward?, dropSteward]
  induction session.stewards with
  | nil => simp
  | cons first rest ih =>
      rw [List.filter_cons, List.find?_cons]
      grind

theorem reader?_setReader (session : Session) (reader : Reader) (connection : ConnectionId) :
    (session.setReader reader).reader? connection =
      if connection = reader.connection then (session.reader? connection).map fun _ => reader
      else session.reader? connection := by
  simp only [reader?, setReader]
  induction session.readers with
  | nil => simp
  | cons first rest ih =>
      rw [List.map_cons, List.find?_cons, List.find?_cons, ih]
      by_cases hfirst : first.connection = reader.connection <;>
        by_cases hid : connection = reader.connection <;> grind

end Lookups

/-! What the larger changes come to, field by field. -/

section Changes

variable {session : Session}

theorem abandonTasks_eq (session : Session) :
    session.abandonTasks = { session with
      stewards := session.stewards.filter fun steward => session.steward ≠ some steward.id
      readers := session.readers.map fun reader =>
        if session.reader = some reader.connection then { reader with isCancelled := true }
        else reader
      steward := none
      reader := none } := by
  have hall : session.stewards.filter (fun _ => true) = session.stewards :=
    List.filter_eq_self.mpr fun _ _ => rfl
  cases hsteward : session.steward <;> cases hreader : session.reader <;>
    simp [abandonTasks, dropSteward, cancelReader, hsteward, hreader, hall, eq_comm]

theorem failGreeting_eq (steward : Steward) (connection : ConnectionId) (failure : ClientError) :
    (session.failGreeting steward connection failure).1 =
      { ((session.cancelReader connection).close.1.dropSteward steward.id) with
        ready := session.ready ++ news steward (.error failure) } := by
  cases hannounced : steward.announced <;>
    simp [failGreeting, news, hannounced, dropSteward, close, cancelReader]

/-- Whoever was read from before is told to end, and a new reader is the one that a stop ends. -/
theorem listen_eq (steward : Steward) (connection : ConnectionId) :
    (session.listen steward connection).1 =
      { session.setSteward { steward with stage := .listening connection } with
        readers := (session.reader.elim session fun previous =>
          session.cancelReader previous).readers ++ [⟨connection, [], 0, false, none⟩]
        reader := some connection } := by
  cases hreader : session.reader <;> simp [listen, hreader, setSteward, cancelReader]

/-- Who asks after a request learns what settled it, or gives it up when its time is up. -/
theorem poll_cases {around : Surroundings} {method : String} {id : RequestId}
    {deadline timeout : Nat} {next : Session} {answer : Except ClientError Response}
    (hpoll : session.poll around method id deadline timeout = some (next, answer)) :
    (∃ settled, session.settled.lookup id = some settled ∧
        answer = settled.elim (.error .connectionClosed) .ok ∧
        next = { session with settled := session.settled.filter (·.1 ≠ id) }) ∨
      (session.settled.lookup id = none ∧ deadline ≤ around.now ∧
        answer = .error (.requestTimeout method (timeout * 1000)) ∧
        next = { session with pending := session.pending.filter (· ≠ id) }) := by
  simp only [poll] at hpoll
  split at hpoll
  · rename_i response hlookup
    obtain ⟨rfl, rfl⟩ := Prod.mk.inj (Option.some.inj hpoll)
    exact .inl ⟨some response, hlookup, rfl, rfl⟩
  · rename_i hlookup
    obtain ⟨rfl, rfl⟩ := Prod.mk.inj (Option.some.inj hpoll)
    exact .inl ⟨none, hlookup, rfl, rfl⟩
  · rename_i hlookup
    obtain ⟨htime, hpoll⟩ := Option.ite_none_right_eq_some.mp hpoll
    obtain ⟨rfl, rfl⟩ := Prod.mk.inj (Option.some.inj hpoll)
    exact .inr ⟨hlookup, htime, rfl, rfl⟩

/-- To ask after a request changes nothing but what is known of requests. -/
theorem poll_eq {around : Surroundings} {next : Session} {method : String} {request : RequestId}
    {deadline timeout : Nat} {answer : Except ClientError Response}
    (hpoll : session.poll around method request deadline timeout = some (next, answer)) :
    ∃ pending settled, next = { session with pending := pending, settled := settled } ∧
      ∀ id ∈ pending, id ∈ session.pending := by
  rcases poll_cases hpoll with ⟨found, -, -, rfl⟩ | ⟨-, -, -, rfl⟩
  · exact ⟨_, _, rfl, fun _ hmem => hmem⟩
  · exact ⟨_, _, rfl, fun _ hmem => (List.mem_filter.mp hmem).1⟩

theorem poll_frame {around : Surroundings} {next : Session} {method : String}
    {request : RequestId} {deadline timeout : Nat} {answer : Except ClientError Response}
    (hpoll : session.poll around method request deadline timeout = some (next, answer)) :
    next.call = session.call ∧ next.stewards = session.stewards := by
  obtain ⟨pending, settled, rfl, -⟩ := poll_eq hpoll
  exact ⟨rfl, rfl⟩

end Changes

inductive StewardTurn (around : Surroundings) (session : Session) (steward : Steward) :
    Session × List Effect → Prop
  | attach {connection : ConnectionId} (hstage : steward.stage = .connected connection) :
      StewardTurn around session steward (session.attach steward connection)
  | listen {connection : ConnectionId} (hstage : steward.stage = .attached connection) :
      StewardTurn around session steward (session.listen steward connection)
  /-- The roots cannot be sent. -/
  | unfit {connection : ConnectionId} {error : FolderError}
      (hstage : steward.stage = .listening connection)
      (hprofile : session.profile.handshake = .error error) :
      StewardTurn around session steward
        (session.failGreeting steward connection (.handshake error.message))
  | unsent {connection : ConnectionId} {params : Json} {failure : ClientError}
      (hstage : steward.stage = .listening connection)
      (hprofile : session.profile.handshake = .ok params)
      (hsend : session.sendRequest around greetingMethod params = .error failure) :
      StewardTurn around session steward (session.counted.failGreeting steward connection failure)
  | greet {connection : ConnectionId} {params : Json} {effect : Effect}
      (hstage : steward.stage = .listening connection)
      (hprofile : session.profile.handshake = .ok params)
      (hsend : session.sendRequest around greetingMethod params = .ok effect) :
      StewardTurn around session steward
        (session.enrolled.setSteward { steward with
          stage := .greeting connection (.number session.nextRequest)
            (around.now + greetingTimeout) }, [effect])
  | refused {connection : ConnectionId} {request : RequestId} {deadline : Nat} {next : Session}
      {answer : Except ClientError Response} {failure : ClientError}
      (hstage : steward.stage = .greeting connection request deadline)
      (hpoll : session.poll around greetingMethod request deadline greetingTimeout =
        some (next, answer))
      (hconfirm : next.confirm around answer = .error failure) :
      StewardTurn around session steward (next.failGreeting steward connection failure)
  | welcomed {connection : ConnectionId} {request : RequestId} {deadline : Nat} {next : Session}
      {answer : Except ClientError Response} {welcome : Welcome} {effect : Effect}
      {lines : List LogLine}
      (hstage : steward.stage = .greeting connection request deadline)
      (hpoll : session.poll around greetingMethod request deadline greetingTimeout =
        some (next, answer))
      (hconfirm : next.confirm around answer = .ok (welcome, effect)) :
      StewardTurn around session steward
        ({ next.setSteward { steward with stage := .serving connection, announced := true } with
            ready := next.ready ++ news steward (.ok welcome) },
          effect :: lines.map Effect.log)
  | lose {connection : ConnectionId} {exit : ReaderExit}
      (hstage : steward.stage = .serving connection)
      (hexit : (session.reader? connection).bind Reader.exit = some exit) :
      StewardTurn around session steward (session.concludeServing steward exit)
  /-- A stop has begun, or the error handler wanted the session to end. -/
  | retire {exit : ReaderExit} {lines : List LogLine} (hstage : steward.stage = .bereft exit)
      (hwhy : session.stopping = true ∨ exit = .aborted) :
      StewardTurn around session steward
        (session.dropSteward steward.id, lines.map Effect.log)
  | resign (hstage : steward.stage = .bereft .closed) (hstopping : session.stopping = false)
      (hdecision : around.decide .closed = .abort) :
      StewardTurn around session steward
        (session.dropSteward steward.id, [.consult .closed .abort])
  | exhaust {line : LogLine} (hstage : steward.stage = .bereft .closed)
      (hstopping : session.stopping = false) (hdecision : around.decide .closed = .proceed)
      (hlimit : session.configuration.maxRestarts ≤ steward.restarts) :
      StewardTurn around session steward
        (session.dropSteward steward.id, [.consult .closed .proceed, .log line])
  | reconnect {line : LogLine} (hstage : steward.stage = .bereft .closed)
      (hstopping : session.stopping = false) (hdecision : around.decide .closed = .proceed)
      (hlimit : steward.restarts < session.configuration.maxRestarts) :
      StewardTurn around session steward
        (session.setSteward { steward with
          stage := .reconnecting, restarts := steward.restarts + 1 },
          [.consult .closed .proceed, .log line, .connect (.steward steward.id)])

/-- The message in a frame, or the event that reports the frame as the fault of a number.  The text
is there if there is one: if the frame has a body that is no message. -/
def told (found : Frame.Outcome) (count : Nat) : Except ConnectionEvent Message :=
  match found with
  | .error fault => .error (faultEvent (.frame fault) none count)
  | .ok body =>
    match Message.decode body with
    | .error error => .error (faultEvent (.message error) (some body) count)
    | .ok message => .ok message

/-- A turn of a reader that has not ended: what it does, what becomes of it, and what comes of that.
-/
inductive ReaderTurn (around : Surroundings) (session : Session) (reader : Reader) :
    Reading → Reader → Session × List Effect → Prop
  | cancelled (hcancelled : reader.isCancelled = true) :
      ReaderTurn around session reader .quit { reader with exit := some .closed }
        (session.setReader { reader with exit := some .closed }, [])
  | message {found : Frame.Outcome} {rest : List UInt8} {message : Message}
      (hreads : reader.isCancelled = false)
      (hframe : Frame.next? reader.buffer = some (found, rest))
      (htold : told found (reader.faults + 1) = .ok message) :
      ReaderTurn around session reader (.handle found rest) { reader with buffer := rest }
        ((session.setReader { reader with buffer := rest }).dispatch around message)
  | fault {found : Frame.Outcome} {rest : List UInt8} {event : ConnectionEvent}
      (hreads : reader.isCancelled = false)
      (hframe : Frame.next? reader.buffer = some (found, rest))
      (htold : told found (reader.faults + 1) = .error event) :
      ReaderTurn around session reader (.handle found rest)
        { reader with
          buffer := rest
          faults := reader.faults + 1
          exit := exitAfter (around.decide event) }
        (session.setReader { reader with
            buffer := rest
            faults := reader.faults + 1
            exit := exitAfter (around.decide event) }, [.consult event (around.decide event)])
  | bytes {chunk : List UInt8} (hreads : reader.isCancelled = false)
      (hframe : Frame.next? reader.buffer = none)
      (harrival : around.arrival reader.connection = some (.bytes chunk)) :
      ReaderTurn around session reader (.take (.bytes chunk))
        { reader with buffer := reader.buffer ++ chunk }
        (session.setReader { reader with buffer := reader.buffer ++ chunk },
          [.take reader.connection])
  | finish (hreads : reader.isCancelled = false) (hframe : Frame.next? reader.buffer = none)
      (harrival : around.arrival reader.connection = some .finish) :
      ReaderTurn around session reader (.take .finish) { reader with exit := some .closed }
        (session.setReader { reader with exit := some .closed }, [.take reader.connection])
  | failure {cause : String} {event : ConnectionEvent} (hreads : reader.isCancelled = false)
      (hframe : Frame.next? reader.buffer = none)
      (harrival : around.arrival reader.connection = some (.failure cause))
      (hevent : event = faultEvent (.stream cause) none (reader.faults + 1)) :
      ReaderTurn around session reader (.take (.failure cause))
        { reader with
          faults := reader.faults + 1
          exit := some ((exitAfter (around.decide event)).getD .closed) }
        (session.setReader { reader with
            faults := reader.faults + 1
            exit := some ((exitAfter (around.decide event)).getD .closed) },
          [.take reader.connection, .consult event (around.decide event)])

inductive CallTurn (around : Surroundings) (session : Session) : Session × List Effect → Prop
  | started {id : StewardId} {welcome : Welcome} (hcall : session.call = .starting id)
      (hready : session.ready.lookup id = some (.ok welcome)) :
      CallTurn around session
        ({ session with
            ready := session.ready.filter (·.1 ≠ id)
            welcome := some welcome
            call := .idle }, [.started (.ok welcome)])
  | failed {id : StewardId} {failure : ClientError} (hcall : session.call = .starting id)
      (hready : session.ready.lookup id = some (.error failure)) :
      CallTurn around session
        ({ session with ready := session.ready.filter (·.1 ≠ id) }.abandonTasks.failStart failure)
  /-- The steward went away without a word. -/
  | orphaned {id : StewardId} (hcall : session.call = .starting id)
      (hready : session.ready.lookup id = none) (hgone : session.steward? id = none) :
      CallTurn around session (session.abandonTasks.failStart .connectionClosed)
  | refused {request : RequestId} {deadline : Nat} {next : Session}
      {answer : Except ClientError Response} {failure : ClientError}
      (hcall : session.call = .stopping request deadline)
      (hpoll : session.poll around shutdownMethod request deadline shutdownTimeout =
        some (next, answer))
      (hleave : next.takeLeave around answer = .error failure) :
      CallTurn around session (next.concludeStop (.error failure))
  | agreed {request : RequestId} {deadline : Nat} {next : Session}
      {answer : Except ClientError Response} {effect : Effect}
      (hcall : session.call = .stopping request deadline)
      (hpoll : session.poll around shutdownMethod request deadline shutdownTimeout =
        some (next, answer))
      (hleave : next.takeLeave around answer = .ok effect) :
      CallTurn around session
        ((next.concludeStop (.ok ())).1, effect :: (next.concludeStop (.ok ())).2)

variable {session : Session} {around : Surroundings} {outcome : Session × List Effect}

/-- What goes out goes out on the connection that the session sends on. -/
theorem send_eq_ok {message : Message} {effect : Effect}
    (hsend : session.send around message = .ok effect) :
    ∃ connection, session.writer = some connection ∧ effect = .write connection message := by
  cases hwriter : session.writer with
  | none => simp [send, hwriter] at hsend
  | some connection =>
      cases hfault : around.writeFault connection with
      | some cause => simp [send, hwriter, hfault] at hsend
      | none =>
          simp only [send, hwriter, hfault, Except.ok.injEq] at hsend
          exact ⟨connection, rfl, hsend.symm⟩

theorem request_of_error {method : String} {params : Json} {failure : ClientError}
    (hsend : session.sendRequest around method params = .error failure) :
    session.request around method params = (session.counted, .error failure) := by
  have hcounted : session.counted.send around
      (.request (.ofClient (.number session.nextRequest) method params)) = .error failure := hsend
  simp only [request]
  rw [show { session with nextRequest := session.nextRequest + 1 } = session.counted from rfl,
    hcounted]

theorem request_of_ok {method : String} {params : Json} {effect : Effect}
    (hsend : session.sendRequest around method params = .ok effect) :
    session.request around method params =
      (session.enrolled, .ok (.number session.nextRequest, effect)) := by
  have hcounted : session.counted.send around
      (.request (.ofClient (.number session.nextRequest) method params)) = .ok effect := hsend
  simp only [request]
  rw [show { session with nextRequest := session.nextRequest + 1 } = session.counted from rfl,
    hcounted]
  rfl

theorem exists_of_bind_eq_ok {Failure First Second : Type} {first : Except Failure First}
    {second : First → Except Failure Second} {result : Second}
    (hbind : first.bind second = .ok result) :
    ∃ value, first = .ok value ∧ second value = .ok result := by
  cases first with
  | error failure => exact absurd hbind (by simp [Except.bind])
  | ok value => exact ⟨value, rfl, hbind⟩

theorem confirm_eq_ok {answer : Except ClientError Response} {welcome : Welcome} {effect : Effect}
    (hconfirm : session.confirm around answer = .ok (welcome, effect)) :
    welcomeOf answer = .ok welcome ∧
      session.notify around "initialized" (.obj []) = .ok effect := by
  obtain ⟨found, hwelcome, hsent⟩ := exists_of_bind_eq_ok hconfirm
  cases hnotify : session.notify around "initialized" (.obj []) with
  | error failure => simp [hnotify, Except.map] at hsent
  | ok sent =>
      simp only [hnotify, Except.map, Except.ok.injEq, Prod.mk.injEq] at hsent
      exact ⟨hsent.1 ▸ hwelcome, congrArg Except.ok hsent.2⟩

theorem takeLeave_eq_ok {answer : Except ClientError Response} {effect : Effect}
    (hleave : session.takeLeave around answer = .ok effect) :
    ∃ value, answer.bind resultOf = .ok value ∧ session.notify around "exit" .null = .ok effect :=
  exists_of_bind_eq_ok hleave

theorem stewardTurn_greet {steward : Steward} {connection : ConnectionId}
    (hstage : steward.stage = .listening connection) :
    StewardTurn around session steward (session.greet around steward connection) := by
  cases hprofile : session.profile.handshake with
  | error error =>
      simp only [Session.greet, hprofile]
      exact .unfit hstage hprofile
  | ok params =>
      cases hsend : session.sendRequest around greetingMethod params with
      | error failure =>
          simp only [Session.greet, hprofile, request_of_error hsend]
          exact .unsent hstage hprofile hsend
      | ok effect =>
          simp only [Session.greet, hprofile, request_of_ok hsend]
          exact .greet hstage hprofile hsend

theorem concludeGreeting_of_error {steward : Steward} {connection : ConnectionId}
    {answer : Except ClientError Response} {failure : ClientError}
    (hconfirm : session.confirm around answer = .error failure) :
    session.concludeGreeting around steward connection answer =
      session.failGreeting steward connection failure := by
  rw [confirm] at hconfirm
  simp only [concludeGreeting, hconfirm]

theorem concludeGreeting_of_ok {steward : Steward} {connection : ConnectionId}
    {answer : Except ClientError Response} {welcome : Welcome} {effect : Effect}
    (hconfirm : session.confirm around answer = .ok (welcome, effect)) :
    session.concludeGreeting around steward connection answer =
      ({ session.setSteward { steward with stage := .serving connection, announced := true } with
          ready := session.ready ++ news steward (.ok welcome) },
        effect :: (if steward.announced then [.info "Reconnected to language server"]
          else []).map Effect.log) := by
  rw [confirm] at hconfirm
  simp only [concludeGreeting, hconfirm, news]
  cases steward.announced <;> simp [setSteward]

theorem stewardTurn_concludeGreeting {steward : Steward} {connection : ConnectionId}
    {request : RequestId} {deadline : Nat} {next : Session}
    {answer : Except ClientError Response}
    (hstage : steward.stage = .greeting connection request deadline)
    (hpoll : session.poll around greetingMethod request deadline greetingTimeout =
      some (next, answer)) :
    StewardTurn around session steward
      (next.concludeGreeting around steward connection answer) := by
  cases hconfirm : next.confirm around answer with
  | error failure =>
      rw [concludeGreeting_of_error hconfirm]
      exact .refused hstage hpoll hconfirm
  | ok confirmed =>
      rw [concludeGreeting_of_ok hconfirm]
      exact .welcomed hstage hpoll hconfirm

theorem stewardTurn_concludeLoss {steward : Steward} {exit : ReaderExit}
    (hstage : steward.stage = .bereft exit) :
    StewardTurn around session steward (session.concludeLoss around steward exit) := by
  cases hstopping : session.stopping with
  | true =>
      have hturn : StewardTurn around session steward
          (session.dropSteward steward.id, [].map Effect.log) := .retire hstage (.inl hstopping)
      simp only [concludeLoss, hstopping, if_true]
      exact hturn
  | false =>
      cases exit with
      | aborted =>
          have hturn (line : LogLine) : StewardTurn around session steward
              (session.dropSteward steward.id, [line].map Effect.log) := .retire hstage (.inr rfl)
          simp only [concludeLoss, hstopping]
          exact hturn _
      | closed =>
          cases hdecision : around.decide .closed with
          | abort =>
              simp only [concludeLoss, hstopping, hdecision]
              exact .resign hstage hstopping hdecision
          | proceed =>
              by_cases hlimit : session.configuration.maxRestarts ≤ steward.restarts
              · simp only [concludeLoss, hstopping, hdecision, Session.reconnect, hlimit, if_true]
                exact .exhaust hstage hstopping hdecision hlimit
              · simp only [concludeLoss, hstopping, hdecision, Session.reconnect, hlimit]
                exact .reconnect hstage hstopping hdecision (Nat.lt_of_not_le hlimit)

/-- Every turn of a steward is one of the cases. -/
theorem stepSteward_turn {id : StewardId} (hstep : session.stepSteward around id = some outcome) :
    ∃ steward, session.steward? id = some steward ∧
      StewardTurn around session steward outcome := by
  obtain ⟨steward, hsteward, hstep⟩ := Option.bind_eq_some_iff.mp hstep
  refine ⟨steward, hsteward, ?_⟩
  cases hstage : steward.stage with
  | connected connection =>
      simp only [hstage, Option.some.injEq] at hstep
      exact hstep ▸ .attach hstage
  | attached connection =>
      simp only [hstage, Option.some.injEq] at hstep
      exact hstep ▸ .listen hstage
  | listening connection =>
      simp only [hstage, Option.some.injEq] at hstep
      exact hstep ▸ stewardTurn_greet hstage
  | greeting connection request deadline =>
      simp only [hstage, Option.map_eq_some_iff] at hstep
      obtain ⟨answered, hpoll, hstep⟩ := hstep
      exact hstep ▸ stewardTurn_concludeGreeting hstage hpoll
  | serving connection =>
      simp only [hstage, Option.map_eq_some_iff] at hstep
      obtain ⟨exit, hexit, hstep⟩ := hstep
      exact hstep ▸ .lose hstage hexit
  | bereft exit =>
      simp only [hstage, Option.some.injEq] at hstep
      exact hstep ▸ stewardTurn_concludeLoss hstage
  | reconnecting => simp [hstage] at hstep

theorem told_eq_ok {found : Frame.Outcome} {count : Nat} {message : Message} :
    told found count = .ok message ↔
      ∃ body, found = .ok body ∧ Message.decode body = .ok message := by
  cases found with
  | error fault => simp [told]
  | ok body => cases hdecode : Message.decode body <;> simp [told, hdecode]

theorem told_eq_error {found : Frame.Outcome} {count : Nat} {event : ConnectionEvent}
    (htold : told found count = .error event) : ∃ chain body,
      event = .fault chain body count ∧ ∀ text, body = some text ↔ found = .ok text := by
  cases found with
  | error fault =>
      obtain rfl := Except.error.inj htold
      exact ⟨_, _, rfl, by simp⟩
  | ok text =>
      rw [told] at htold
      cases hdecode : Message.decode text with
      | ok message => simp [hdecode] at htold
      | error error =>
          obtain rfl : faultEvent (.message error) (some text) count = event := by
            simpa [hdecode] using htold
          exact ⟨_, _, rfl, by simp⟩

section Reading

variable {reader changed : Reader} {reading : Reading} {connection : ConnectionId}

theorem readFrame_of_message {found : Frame.Outcome} {rest : List UInt8} {message : Message}
    (htold : told found (reader.faults + 1) = .ok message) :
    session.readFrame around reader found rest =
      (session.setReader { reader with buffer := rest }).dispatch around message := by
  obtain ⟨body, rfl, hdecode⟩ := told_eq_ok.mp htold
  simp only [readFrame, hdecode]

theorem readFrame_of_fault {found : Frame.Outcome} {rest : List UInt8} {event : ConnectionEvent}
    (htold : told found (reader.faults + 1) = .error event) :
    session.readFrame around reader found rest = (session.setReader { reader with
      buffer := rest
      faults := reader.faults + 1
      exit := exitAfter (around.decide event) }, [.consult event (around.decide event)]) := by
  cases found with
  | error fault =>
      obtain rfl := Except.error.inj htold
      simp only [readFrame]
      cases around.decide (faultEvent (.frame fault) none (reader.faults + 1)) <;> rfl
  | ok body =>
      rw [told] at htold
      cases hdecode : Message.decode body with
      | ok message => simp [hdecode] at htold
      | error error =>
          obtain rfl : faultEvent (.message error) (some body) (reader.faults + 1) = event := by
            simpa [hdecode] using htold
          simp only [readFrame, hdecode]
          cases around.decide (faultEvent (.message error) (some body) (reader.faults + 1)) <;> rfl

theorem readArrival_of_failure {cause : String} {event : ConnectionEvent}
    (hevent : event = faultEvent (.stream cause) none (reader.faults + 1)) :
    session.readArrival around reader (.failure cause) = (session.setReader { reader with
      faults := reader.faults + 1
      exit := some ((exitAfter (around.decide event)).getD .closed) },
      [.take reader.connection, .consult event (around.decide event)]) := by
  subst hevent
  simp only [readArrival]
  cases around.decide (faultEvent (.stream cause) none (reader.faults + 1)) <;> rfl

/-- Whatever fits to a reader is a turn. -/
theorem readerTurn_of_fits (session : Session) (hfits : reading.Fits around reader) :
    ∃ changed, ReaderTurn around session reader reading changed
      (session.read around reader reading) := by
  cases reading with
  | quit => exact ⟨_, .cancelled hfits⟩
  | handle found rest =>
      rw [Session.read]
      cases htold : told found (reader.faults + 1) with
      | ok message =>
          rw [readFrame_of_message htold]
          exact ⟨_, .message hfits.1 hfits.2 htold⟩
      | error event =>
          rw [readFrame_of_fault htold]
          exact ⟨_, .fault hfits.1 hfits.2 htold⟩
  | take arrival =>
      rw [Session.read]
      obtain ⟨hreads, hframe, harrival⟩ := hfits
      cases arrival with
      | bytes chunk => exact ⟨_, .bytes hreads hframe harrival⟩
      | finish => exact ⟨_, .finish hreads hframe harrival⟩
      | failure cause =>
          rw [readArrival_of_failure rfl]
          exact ⟨_, .failure hreads hframe harrival rfl⟩

theorem ReaderTurn.fits (hturn : ReaderTurn around session reader reading changed outcome) :
    reading.Fits around reader := by
  cases hturn with
  | cancelled hcancelled => exact hcancelled
  | message hreads hframe | fault hreads hframe => exact ⟨hreads, hframe⟩
  | bytes hreads hframe harrival | finish hreads hframe harrival
  | failure hreads hframe harrival => exact ⟨hreads, hframe, harrival⟩

/-- A turn is what its reader does next. -/
theorem ReaderTurn.reading?_eq
    (hturn : ReaderTurn around session reader reading changed outcome)
    (hreader : session.reader? connection = some reader) (hexit : reader.exit = none) :
    session.reading? around connection = some (reader, reading) :=
  reading?_eq_some.mpr ⟨hreader, hexit, hturn.fits⟩

/-- Every turn of a reader is one of the cases. -/
theorem stepReader_turn (hstep : session.stepReader around connection = some outcome) :
    ∃ reader reading changed, session.reader? connection = some reader ∧ reader.exit = none ∧
      reader.connection = connection ∧
      ReaderTurn around session reader reading changed outcome := by
  obtain ⟨reader, reading, hreading, rfl⟩ := stepReader_eq_some.mp hstep
  obtain ⟨hreader, hexit, hfits⟩ := reading?_eq_some.mp hreading
  obtain ⟨changed, hturn⟩ := readerTurn_of_fits session hfits
  exact ⟨reader, reading, changed, hreader, hexit, (reader?_eq_some hreader).2, hturn⟩

end Reading

theorem concludeShutdown_of_error {answer : Except ClientError Response} {failure : ClientError}
    (hleave : session.takeLeave around answer = .error failure) :
    session.concludeShutdown around answer = session.concludeStop (.error failure) := by
  rw [takeLeave] at hleave
  simp only [concludeShutdown, hleave]

theorem concludeShutdown_of_ok {answer : Except ClientError Response} {effect : Effect}
    (hleave : session.takeLeave around answer = .ok effect) :
    session.concludeShutdown around answer =
      ((session.concludeStop (.ok ())).1, effect :: (session.concludeStop (.ok ())).2) := by
  rw [takeLeave] at hleave
  simp only [concludeShutdown, hleave]

theorem callTurn_concludeShutdown {request : RequestId} {deadline : Nat} {next : Session}
    {answer : Except ClientError Response} (hcall : session.call = .stopping request deadline)
    (hpoll : session.poll around shutdownMethod request deadline shutdownTimeout =
      some (next, answer)) :
    CallTurn around session (next.concludeShutdown around answer) := by
  cases hleave : next.takeLeave around answer with
  | error failure =>
      rw [concludeShutdown_of_error hleave]
      exact .refused hcall hpoll hleave
  | ok effect =>
      rw [concludeShutdown_of_ok hleave]
      exact .agreed hcall hpoll hleave

/-- Every turn of the owner's call is one of the cases. -/
theorem stepCall_turn (hstep : session.stepCall around = some outcome) :
    CallTurn around session outcome := by
  cases hcall : session.call with
  | idle => simp [stepCall, hcall] at hstep
  | connecting => simp [stepCall, hcall] at hstep
  | starting id =>
      simp only [stepCall, hcall] at hstep
      cases hready : session.ready.lookup id with
      | some result =>
          simp only [hready, Option.some.injEq] at hstep
          rw [← hstep, ← hcall]
          cases result with
          | ok welcome => exact .started hcall hready
          | error failure => exact .failed hcall hready
      | none =>
          simp only [hready] at hstep
          obtain ⟨hgone, hstep⟩ := Option.ite_none_right_eq_some.mp hstep
          rw [← Option.some.inj hstep]
          exact .orphaned hcall hready (by simpa using hgone)
  | stopping request deadline =>
      simp only [stepCall, hcall, Option.map_eq_some_iff] at hstep
      obtain ⟨answered, hpoll, hstep⟩ := hstep
      exact hstep ▸ callTurn_concludeShutdown hcall hpoll

/-- The owner's call asks for no connection when it gets on. -/
theorem CallTurn.plain (hturn : CallTurn around session outcome) {effect : Effect}
    (hmem : effect ∈ outcome.2) : effect.isConnect = false := by
  cases hturn with
  | started | failed | orphaned =>
      rw [List.mem_singleton.mp hmem]
      rfl
  | refused => exact concludeStop_plain hmem
  | agreed hcall hpoll hleave =>
      cases List.mem_cons.mp hmem with
      | inl hsent =>
          obtain ⟨-, -, hnotify⟩ := exists_of_bind_eq_ok hleave
          rw [hsent]
          exact (send_plain hnotify).2
      | inr hclosed => exact concludeStop_plain hclosed

/-- A steward's turn leaves alone what the owner waits for, and whether a stop has begun. -/
theorem StewardTurn.frame {steward : Steward} (hturn : StewardTurn around session steward outcome) :
    outcome.1.call = session.call ∧ outcome.1.stopping = session.stopping := by
  cases hturn with
  | listen =>
      rw [listen_eq]
      exact ⟨rfl, rfl⟩
  | unfit | unsent =>
      rw [failGreeting_eq]
      exact ⟨rfl, rfl⟩
  | refused hstage hpoll =>
      obtain ⟨pending, settled, rfl, -⟩ := poll_eq hpoll
      rw [failGreeting_eq]
      exact ⟨rfl, rfl⟩
  | welcomed hstage hpoll =>
      obtain ⟨pending, settled, rfl, -⟩ := poll_eq hpoll
      exact ⟨rfl, rfl⟩
  | _ => exact ⟨rfl, rfl⟩

end NplLifecycle.Session
