import NplLifecycle.Proofs.Session.Ledger
import NplLifecycle.Proofs.Session.Reading

/-!
# Stewards at their stages

Where no start begins beside a steward, one steward at a time leads the session from connection to
connection, and its stage says everything: whether the session can send, on which connection, who
reads, and how the last reader ended.  Every move but those that bring a new steward leaves the
session with the steward it had, or with none, and what the stage says stays true.
-/

namespace NplLifecycle.Session

def stage? (session : Session) : Option Stage :=
  session.stewards.head?.map Steward.stage

/-- The stage that a steward reaches in a turn, if it goes on. -/
inductive Stage.Next (session : Session) : Stage → Stage → Prop
  | attach {connection : ConnectionId} : Next session (.connected connection) (.attached connection)
  | listen {connection : ConnectionId} : Next session (.attached connection) (.listening connection)
  | greet {connection : ConnectionId} {request : RequestId} {deadline : Nat} :
      Next session (.listening connection) (.greeting connection request deadline)
  | welcome {connection : ConnectionId} {request : RequestId} {deadline : Nat} :
      Next session (.greeting connection request deadline) (.serving connection)
  | lose {connection : ConnectionId} {exit : ReaderExit}
      (hexit : session.exit? connection = some exit) :
      Next session (.serving connection) (.bereft exit)
  | reconnect : Next session (.bereft .closed) .reconnecting

/-- The session cannot send, waits for no response, and nobody reads. -/
structure Offline (session : Session) : Prop where
  alive : session.alive = false
  writer : session.writer = none
  pending : session.pending = []
  readers : ∀ reader ∈ session.readers, ¬reader.IsReading

/-- The session sends on a connection, and nobody reads from another one. -/
structure Online (session : Session) (connection : ConnectionId) : Prop where
  alive : session.alive = true
  writer : session.writer = some connection
  readers : ∀ reader ∈ session.readers, reader.IsReading → reader.connection = connection

/-- There is no reader of a connection. -/
def Unread (session : Session) (connection : ConnectionId) : Prop :=
  connection ∉ session.readers.map Reader.connection

/-- The reader of a connection is the one that a stop ends. -/
def Attended (session : Session) (connection : ConnectionId) : Prop :=
  session.reader = some connection ∧ connection ∈ session.readers.map Reader.connection

/-- What a stage says of the session. -/
def Upkeep (session : Session) : Option Stage → Prop
  | none | some .reconnecting => session.Offline
  | some (.connected connection) => session.Offline ∧ session.Unread connection
  | some (.attached connection) => session.Online connection ∧ session.Unread connection
  | some (.listening connection) | some (.greeting connection _ _) | some (.serving connection) =>
    session.Online connection ∧ session.Attended connection
  | some (.bereft exit) =>
    session.Offline ∧ ∃ connection, session.reader = some connection ∧
      session.exit? connection = some exit

/-- At most one steward leads the session, a stop ends it, and the session is as its stage says. -/
structure Guided (session : Session) : Prop where
  single : ∀ steward ∈ session.stewards, session.stewards = [steward]
  sole : session.Sole
  distinct : (session.readers.map Reader.connection).Nodup
  upkeep : session.Upkeep session.stage?

/-- No steward came and no start began, and what a start is told is told by a steward that was
there; with bad news the steward is gone. -/
structure Narrows (before after : Session) : Prop where
  stewards : ∀ steward ∈ after.stewards, ∃ old ∈ before.stewards, old.id = steward.id
  steward : after.stewards ≠ [] → after.steward = before.steward
  call : after.call = before.call ∨ after.call ≠ .connecting ∧ ∀ id, after.call ≠ .starting id
  ready : ∀ entry ∈ after.ready, entry ∈ before.ready ∨
    (∃ old ∈ before.stewards, old.id = entry.1) ∧
      ∀ failure, entry.2 = .error failure → after.stewards = []
  nextSteward : after.nextSteward = before.nextSteward

/-- A session went on without a new steward. -/
structure Proceeds (before after : Session) : Prop extends Narrows before after where
  guided : after.Guided

section Staging

variable {session before after : Session} {connection : ConnectionId} {stage : Option Stage}

theorem Keeps.offline (hkeeps : Keeps before after) (hoffline : before.Offline) :
    after.Offline where
  alive := hkeeps.alive.trans hoffline.alive
  writer := hkeeps.writer.trans hoffline.writer
  pending := hkeeps.pending hoffline.pending
  readers := by
    intro reader hmem hreads
    obtain ⟨old, hold, hread, -⟩ := hkeeps.readers reader hmem hreads
    exact hoffline.readers old hold hread

theorem Keeps.online (hkeeps : Keeps before after) (honline : before.Online connection) :
    after.Online connection where
  alive := hkeeps.alive.trans honline.alive
  writer := hkeeps.writer.trans honline.writer
  readers := by
    intro reader hmem hreads
    obtain ⟨old, hold, hread, hsame⟩ := hkeeps.readers reader hmem hreads
    exact hsame ▸ honline.readers old hold hread

theorem Keeps.unread (hkeeps : Keeps before after) (hunread : before.Unread connection) :
    after.Unread connection := by
  rwa [Unread, hkeeps.connections]

theorem Keeps.attended (hkeeps : Keeps before after) (hattended : before.Attended connection) :
    after.Attended connection := by
  refine ⟨hkeeps.reader.trans hattended.1, ?_⟩
  rw [hkeeps.connections]
  exact hattended.2

/-- What a stage says stays true while the steward stays at it. -/
theorem Upkeep.keep (hupkeep : before.Upkeep stage) (hkeeps : Keeps before after) :
    after.Upkeep stage := by
  cases stage with
  | none => exact hkeeps.offline hupkeep
  | some stage =>
      cases stage with
      | connected connection => exact ⟨hkeeps.offline hupkeep.1, hkeeps.unread hupkeep.2⟩
      | attached connection => exact ⟨hkeeps.online hupkeep.1, hkeeps.unread hupkeep.2⟩
      | listening connection => exact ⟨hkeeps.online hupkeep.1, hkeeps.attended hupkeep.2⟩
      | greeting connection request deadline =>
          exact ⟨hkeeps.online hupkeep.1, hkeeps.attended hupkeep.2⟩
      | serving connection => exact ⟨hkeeps.online hupkeep.1, hkeeps.attended hupkeep.2⟩
      | bereft exit =>
          obtain ⟨hoffline, connection, hreader, hexit⟩ := hupkeep
          exact ⟨hkeeps.offline hoffline, connection, hkeeps.reader.trans hreader,
            hkeeps.exits connection exit hexit⟩
      | reconnecting => exact hkeeps.offline hupkeep

/-- Whoever reads reads from the connection that the session sends on. -/
theorem Upkeep.online_of_reading (hupkeep : session.Upkeep stage) {reader : Reader}
    (hmem : reader ∈ session.readers) (hreads : reader.IsReading) :
    session.Online reader.connection := by
  have hoffline (hoffline : session.Offline) : session.Online reader.connection :=
    absurd hreads (hoffline.readers reader hmem)
  have honline {connection : ConnectionId} (honline : session.Online connection) :
      session.Online reader.connection :=
    (honline.readers reader hmem hreads).symm ▸ honline
  cases stage with
  | none => exact hoffline hupkeep
  | some stage =>
      cases stage with
      | connected connection => exact hoffline hupkeep.1
      | attached connection | listening connection | greeting connection _ _
      | serving connection => exact honline hupkeep.1
      | bereft exit => exact hoffline hupkeep.1
      | reconnecting => exact hoffline hupkeep

/-- Whatever reads is what a stop ends. -/
theorem Upkeep.led (hupkeep : session.Upkeep stage) : session.Led := by
  intro reader hmem hreads
  have hoffline (hoffline : session.Offline) : session.reader = some reader.connection :=
    absurd hreads (hoffline.readers reader hmem)
  have hengaged {connection : ConnectionId} (honline : session.Online connection)
      (hattended : session.Attended connection) : session.reader = some reader.connection := by
    rw [honline.readers reader hmem hreads]
    exact hattended.1
  cases stage with
  | none => exact hoffline hupkeep
  | some stage =>
      cases stage with
      | connected connection => exact hoffline hupkeep.1
      | attached connection =>
          have hsame := hupkeep.1.readers reader hmem hreads
          exact absurd (hsame ▸ List.mem_map_of_mem hmem) hupkeep.2
      | listening connection | greeting connection _ _ | serving connection =>
          exact hengaged hupkeep.1 hupkeep.2
      | bereft exit => exact hoffline hupkeep.1
      | reconnecting => exact hoffline hupkeep

end Staging

section Steps

variable {session before middle after : Session} {around : Surroundings}
  {steward changed : Steward} {id : StewardId} {connection : ConnectionId}
  {outcome : Session × List Effect}

theorem stewards_setSteward (hsingle : session.stewards = [steward])
    (hid : changed.id = steward.id) : (session.setSteward changed).stewards = [changed] := by
  simp [setSteward, hsingle, hid]

theorem stewards_dropSteward (hsingle : session.stewards = [steward]) :
    (session.dropSteward steward.id).stewards = [] := by
  simp [dropSteward, hsingle]

theorem stewards_attach (hsingle : session.stewards = [steward]) (connection : ConnectionId) :
    (session.attach steward connection).1.stewards =
      [{ steward with stage := .attached connection }] :=
  stewards_setSteward hsingle rfl

theorem stewards_listen (hsingle : session.stewards = [steward]) (connection : ConnectionId) :
    (session.listen steward connection).1.stewards =
      [{ steward with stage := .listening connection }] := by
  rw [listen_eq]
  exact stewards_setSteward hsingle rfl

theorem stewards_failGreeting (hsingle : session.stewards = [steward]) (connection : ConnectionId)
    (failure : ClientError) :
    (session.failGreeting steward connection failure).1.stewards = [] := by
  rw [failGreeting_eq]
  exact stewards_dropSteward hsingle

theorem stewards_welcome {next : Session} {method : String} {request : RequestId}
    {deadline timeout : Nat} {answer : Except ClientError Response}
    (hsingle : session.stewards = [steward])
    (hpoll : session.poll around method request deadline timeout = some (next, answer))
    (connection : ConnectionId) :
    (next.setSteward { steward with stage := .serving connection, announced := true }).stewards =
      [{ steward with stage := .serving connection, announced := true }] :=
  stewards_setSteward ((poll_frame hpoll).2.trans hsingle) rfl

theorem stewards_concludeServing (hsingle : session.stewards = [steward]) (exit : ReaderExit) :
    (session.concludeServing steward exit).1.stewards =
      [{ steward with stage := .bereft exit }] :=
  stewards_setSteward hsingle rfl

/-- After its turn the only steward is gone or at the next stage. -/
theorem StewardTurn.succession (hturn : StewardTurn around session steward outcome)
    (hsingle : session.stewards = [steward]) : outcome.1.stewards = [] ∨
      ∃ changed, outcome.1.stewards = [changed] ∧ steward.stage.Next session changed.stage := by
  cases hturn with
  | attach hstage => exact .inr ⟨_, stewards_attach hsingle _, hstage ▸ .attach⟩
  | listen hstage => exact .inr ⟨_, stewards_listen hsingle _, hstage ▸ .listen⟩
  | unfit => exact .inl (stewards_failGreeting hsingle _ _)
  | unsent =>
      have hcounted : session.counted.stewards = [steward] := hsingle
      exact .inl (stewards_failGreeting hcounted _ _)
  | greet hstage =>
      have henrolled : session.enrolled.stewards = [steward] := hsingle
      exact .inr ⟨_, stewards_setSteward henrolled rfl, hstage ▸ .greet⟩
  | refused hstage hpoll =>
      exact .inl (stewards_failGreeting ((poll_frame hpoll).2.trans hsingle) _ _)
  | welcomed hstage hpoll => exact .inr ⟨_, stewards_welcome hsingle hpoll _, hstage ▸ .welcome⟩
  | lose hstage hexit => exact .inr ⟨_, stewards_concludeServing hsingle _, hstage ▸ .lose hexit⟩
  | retire | resign | exhaust => exact .inl (stewards_dropSteward hsingle)
  | reconnect hstage => exact .inr ⟨_, stewards_setSteward hsingle rfl, hstage ▸ .reconnect⟩

theorem stage?_of_single (hsingle : session.stewards = [steward]) :
    session.stage? = some steward.stage := by
  rw [stage?, hsingle]
  rfl

theorem Narrows.stewards_eq_nil (hnarrows : Narrows before after) (hnone : before.stewards = []) :
    after.stewards = [] := by
  refine List.eq_nil_iff_forall_not_mem.mpr fun steward hmem => ?_
  obtain ⟨old, hold, -⟩ := hnarrows.stewards steward hmem
  rw [hnone] at hold
  exact absurd hold List.not_mem_nil

theorem Narrows.trans (hfirst : Narrows before middle) (hsecond : Narrows middle after) :
    Narrows before after where
  stewards := by
    intro steward hmem
    obtain ⟨old, hold, hid⟩ := hsecond.stewards steward hmem
    obtain ⟨older, holder, hid'⟩ := hfirst.stewards old hold
    exact ⟨older, holder, hid'.trans hid⟩
  steward := by
    intro hsome
    have hmiddle : middle.stewards ≠ [] := fun hnone => hsome (hsecond.stewards_eq_nil hnone)
    exact (hsecond.steward hsome).trans (hfirst.steward hmiddle)
  call := by
    rcases hsecond.call with hsame | hother
    · rw [hsame]
      exact hfirst.call
    · exact .inr hother
  ready := by
    intro entry hmem
    rcases hsecond.ready entry hmem with hmiddle | ⟨⟨old, hold, hid⟩, hgone⟩
    · exact (hfirst.ready entry hmiddle).imp_right fun htold =>
        ⟨htold.1, fun failure hfailed => hsecond.stewards_eq_nil (htold.2 failure hfailed)⟩
    · obtain ⟨older, holder, hid'⟩ := hfirst.stewards old hold
      exact .inr ⟨⟨older, holder, hid'.trans hid⟩, hgone⟩
  nextSteward := hsecond.nextSteward.trans hfirst.nextSteward

theorem Proceeds.trans (hfirst : Proceeds before middle) (hsecond : Proceeds middle after) :
    Proceeds before after where
  toNarrows := hfirst.toNarrows.trans hsecond.toNarrows
  guided := hsecond.guided

/-- The steward that leads the session is the only one. -/
theorem Guided.stewards_eq (hguided : session.Guided)
    (hsteward : session.steward? id = some steward) : session.stewards = [steward] :=
  hguided.single steward (steward?_eq_some hsteward).1

/-- No steward leads the session, or one does. -/
theorem Guided.none_or_single (hguided : session.Guided) :
    session.stewards = [] ∨ ∃ steward, session.stewards = [steward] := by
  cases hstewards : session.stewards with
  | nil => exact .inl rfl
  | cons steward rest =>
      have hsingle := hguided.single steward (hstewards ▸ List.mem_cons_self)
      exact .inr ⟨steward, hstewards.symm.trans hsingle⟩

/-- Without a steward a session is offline. -/
theorem Guided.offline_of_none (hguided : session.Guided) (hnone : session.stewards = []) :
    session.Offline := by
  have hupkeep := hguided.upkeep
  rw [stage?, hnone] at hupkeep
  exact hupkeep

theorem Guided.upkeep_of_single (hguided : session.Guided)
    (hsingle : session.stewards = [steward]) : session.Upkeep (some steward.stage) :=
  stage?_of_single hsingle ▸ hguided.upkeep

theorem Guided.not_connecting (hguided : session.Guided)
    (hsingle : session.stewards = [steward]) : session.call ≠ .connecting := by
  intro hconnecting
  have hnone := hguided.sole.2 hconnecting
  rw [hsingle] at hnone
  exact absurd hnone (List.cons_ne_nil _ _)

theorem guided_of_single (hsingle : session.stewards = [steward])
    (hlast : session.steward = some steward.id) (hcall : session.call ≠ .connecting)
    (hdistinct : (session.readers.map Reader.connection).Nodup)
    (hupkeep : session.Upkeep (some steward.stage)) : session.Guided where
  single := by
    intro other hother
    rw [hsingle, List.mem_singleton] at hother
    rw [hsingle, hother]
  sole := by
    refine ⟨?_, fun hconnecting => absurd hconnecting hcall⟩
    intro other hother
    rw [hsingle, List.mem_singleton] at hother
    rw [hother, hlast]
  distinct := hdistinct
  upkeep := by
    rw [stage?_of_single hsingle]
    exact hupkeep

theorem guided_of_none (hnone : session.stewards = [])
    (hdistinct : (session.readers.map Reader.connection).Nodup) (hoffline : session.Offline) :
    session.Guided where
  single := by simp [hnone]
  sole := sole_of_nil hnone
  distinct := hdistinct
  upkeep := by
    rw [stage?, hnone]
    exact hoffline

/-- A steward goes on, and tells the owner's start good news at most. -/
theorem Guided.proceeds (hguided : session.Guided) (hsingle : session.stewards = [steward])
    (hstewards : after.stewards = [changed]) (hid : changed.id = steward.id)
    (hsteward : after.steward = session.steward) (hcall : after.call = session.call)
    (hnext : after.nextSteward = session.nextSteward)
    (hready : ∀ entry ∈ after.ready,
      entry ∈ session.ready ∨ entry.1 = steward.id ∧ ∃ welcome, entry.2 = .ok welcome)
    (hdistinct : (after.readers.map Reader.connection).Nodup)
    (hupkeep : after.Upkeep (some changed.stage)) : Proceeds session after where
  stewards := by
    intro other hother
    rw [hstewards, List.mem_singleton] at hother
    exact ⟨steward, hsingle ▸ List.mem_singleton_self steward, hother ▸ hid.symm⟩
  steward _ := hsteward
  call := .inl hcall
  ready entry hmem := (hready entry hmem).imp_right fun ⟨htold, welcome, hok⟩ =>
    ⟨⟨steward, hsingle ▸ List.mem_singleton_self steward, htold.symm⟩,
      fun failure hfailed => absurd (hok.symm.trans hfailed) (by simp)⟩
  nextSteward := hnext
  guided := by
    refine guided_of_single hstewards ?_ (hcall ▸ hguided.not_connecting hsingle) hdistinct hupkeep
    rw [hsteward, hid]
    exact hguided.sole.1 steward (hsingle ▸ List.mem_singleton_self steward)

/-- The session is left without a steward, and offline. -/
theorem proceeds_of_none (hnone : after.stewards = [])
    (hcall : after.call = session.call ∨
      after.call ≠ .connecting ∧ ∀ id, after.call ≠ .starting id)
    (hnext : after.nextSteward = session.nextSteward)
    (hready : ∀ entry ∈ after.ready,
      entry ∈ session.ready ∨ ∃ old ∈ session.stewards, old.id = entry.1)
    (hdistinct : (after.readers.map Reader.connection).Nodup) (hoffline : after.Offline) :
    Proceeds session after where
  stewards := by simp [hnone]
  steward hsome := absurd hnone hsome
  call := hcall
  ready entry hmem := (hready entry hmem).imp_right fun htold => ⟨htold, fun _ _ => hnone⟩
  nextSteward := hnext
  guided := guided_of_none hnone hdistinct hoffline

/-- The stewards stay as they are, and so does what their stage says. -/
theorem Guided.proceeds_of_eq (hguided : session.Guided)
    (hstewards : after.stewards = session.stewards) (hsteward : after.steward = session.steward)
    (hcall : after.call = session.call ∨
      after.call ≠ .connecting ∧ ∀ id, after.call ≠ .starting id)
    (hready : ∀ entry ∈ after.ready, entry ∈ session.ready)
    (hnext : after.nextSteward = session.nextSteward)
    (hdistinct : (after.readers.map Reader.connection).Nodup)
    (hupkeep : after.Upkeep session.stage?) : Proceeds session after where
  stewards := fun steward hmem => ⟨steward, hstewards ▸ hmem, rfl⟩
  steward _ := hsteward
  call := hcall
  ready entry hmem := .inl (hready entry hmem)
  nextSteward := hnext
  guided := by
    refine ⟨hstewards ▸ hguided.single, ⟨?_, ?_⟩, hdistinct, ?_⟩
    · rw [hstewards, hsteward]
      exact hguided.sole.1
    · intro hconnecting
      rw [hstewards]
      rcases hcall with hsame | hother
      · exact hguided.sole.2 (hsame ▸ hconnecting)
      · exact absurd hconnecting hother.1
    · rw [stage?, hstewards]
      exact hupkeep

theorem Keeps.proceeds (hkeeps : Keeps session after) (hguided : session.Guided)
    (hstewards : after.stewards = session.stewards) (hsteward : after.steward = session.steward)
    (hcall : after.call = session.call ∨
      after.call ≠ .connecting ∧ ∀ id, after.call ≠ .starting id)
    (hready : ∀ entry ∈ after.ready, entry ∈ session.ready)
    (hnext : after.nextSteward = session.nextSteward) : Proceeds session after :=
  hguided.proceeds_of_eq hstewards hsteward hcall hready hnext
    (hkeeps.connections ▸ hguided.distinct) (hguided.upkeep.keep hkeeps)

/-- A change of the requests alone. -/
theorem Guided.books (hguided : session.Guided) (next : Nat) (pending : List RequestId)
    (settled : List (RequestId × Option Response))
    (hpending : session.pending = [] → session.alive = false → pending = []) :
    Proceeds session { session with
      nextRequest := next, pending := pending, settled := settled } := by
  refine hguided.proceeds_of_eq rfl rfl (.inl rfl) (fun _ hmem => hmem) rfl hguided.distinct ?_
  have hoffline (hoffline : session.Offline) : Session.Offline { session with
      nextRequest := next, pending := pending, settled := settled } :=
    ⟨hoffline.alive, hoffline.writer, hpending hoffline.pending hoffline.alive, hoffline.readers⟩
  have honline {connection : ConnectionId} (honline : session.Online connection) :
      Session.Online { session with
        nextRequest := next, pending := pending, settled := settled } connection :=
    ⟨honline.alive, honline.writer, honline.readers⟩
  have hupkeep := hguided.upkeep
  cases hat : session.stage? with
  | none =>
      rw [hat] at hupkeep
      exact hoffline hupkeep
  | some stage =>
      rw [hat] at hupkeep
      cases stage with
      | connected connection => exact ⟨hoffline hupkeep.1, hupkeep.2⟩
      | attached connection => exact ⟨honline hupkeep.1, hupkeep.2⟩
      | listening connection | greeting connection _ _ | serving connection =>
          exact ⟨honline hupkeep.1, hupkeep.2⟩
      | bereft exit => exact ⟨hoffline hupkeep.1, hupkeep.2⟩
      | reconnecting => exact hoffline hupkeep

theorem Guided.counted (hguided : session.Guided) : Proceeds session session.counted :=
  hguided.books (session.nextRequest + 1) session.pending session.settled fun hnone _ => hnone

theorem Guided.enrolled (hguided : session.Guided) (halive : session.alive = true) :
    Proceeds session session.enrolled :=
  hguided.books (session.nextRequest + 1) _ session.settled fun _ hdead =>
    absurd (hdead.symm.trans halive) (by simp)

theorem Guided.poll {next : Session} {method : String} {request : RequestId}
    {deadline timeout : Nat} {answer : Except ClientError Response} (hguided : session.Guided)
    (hpoll : session.poll around method request deadline timeout = some (next, answer)) :
    Proceeds session next := by
  obtain ⟨pending, settled, rfl, hpending⟩ := poll_eq hpoll
  refine hguided.books session.nextRequest pending settled ?_
  intro hnone _
  refine List.eq_nil_iff_forall_not_mem.mpr fun id hmem => ?_
  have hold := hpending id hmem
  rw [hnone] at hold
  exact absurd hold List.not_mem_nil

theorem offline_failGreeting (honline : session.Online connection)
    (steward : Steward) (failure : ClientError) :
    (session.failGreeting steward connection failure).1.Offline := by
  rw [failGreeting_eq]
  refine ⟨rfl, rfl, rfl, ?_⟩
  intro reader hmem hreads
  obtain ⟨hold, hne⟩ := isReading_of_cancelReader hmem hreads
  exact hne (honline.readers reader hold hreads)

theorem Guided.failGreeting (hguided : session.Guided) (hsingle : session.stewards = [steward])
    (honline : session.Online connection) (failure : ClientError) :
    Proceeds session (session.failGreeting steward connection failure).1 := by
  have hoffline := offline_failGreeting honline steward failure
  rw [failGreeting_eq] at hoffline ⊢
  refine proceeds_of_none (stewards_dropSteward hsingle) (.inl rfl) rfl ?_ ?_ hoffline
  · intro entry hmem
    refine (List.mem_append.mp hmem).imp_right fun hnew => ?_
    rw [news] at hnew
    split at hnew
    · exact absurd hnew List.not_mem_nil
    · rw [List.mem_singleton.mp hnew]
      exact ⟨steward, hsingle ▸ List.mem_singleton_self steward, rfl⟩
  · have hconnections : (session.cancelReader connection).readers.map Reader.connection =
        session.readers.map Reader.connection := connections_cancelReader connection
    exact hconnections.symm ▸ hguided.distinct

theorem Guided.dropSteward (hguided : session.Guided) (hsingle : session.stewards = [steward])
    (hoffline : session.Offline) : Proceeds session (session.dropSteward steward.id) :=
  proceeds_of_none (stewards_dropSteward hsingle) (.inl rfl) rfl (fun _ hmem => .inl hmem)
    hguided.distinct ⟨hoffline.alive, hoffline.writer, hoffline.pending, hoffline.readers⟩

theorem Guided.setSteward (hguided : session.Guided) (hsingle : session.stewards = [steward])
    (hid : changed.id = steward.id)
    (hupkeep : (session.setSteward changed).Upkeep (some changed.stage)) :
    Proceeds session (session.setSteward changed) :=
  hguided.proceeds hsingle (stewards_setSteward hsingle hid) hid rfl rfl rfl
    (fun _ hmem => .inl hmem) hguided.distinct hupkeep

theorem Guided.listen (hguided : session.Guided) (hsingle : session.stewards = [steward])
    (honline : session.Online connection) (hunread : session.Unread connection) :
    Proceeds session (session.listen steward connection).1 := by
  have hkept : ∃ kept,
      (session.reader.elim session fun previous => session.cancelReader previous).readers = kept ∧
      kept.map Reader.connection = session.readers.map Reader.connection ∧
      ∀ reader ∈ kept, reader.IsReading → reader ∈ session.readers := by
    cases session.reader with
    | none => exact ⟨session.readers, rfl, rfl, fun _ hmem _ => hmem⟩
    | some previous =>
        exact ⟨(session.cancelReader previous).readers, rfl, connections_cancelReader previous,
          fun reader hmem hreads => (isReading_of_cancelReader hmem hreads).1⟩
  obtain ⟨kept, hkept, hconnections, hreads⟩ := hkept
  have hmap : (kept ++ [(⟨connection, [], 0, false, none⟩ : Reader)]).map Reader.connection =
      session.readers.map Reader.connection ++ [connection] := by
    rw [List.map_append, hconnections]
    rfl
  rw [listen_eq, hkept]
  refine hguided.proceeds hsingle (stewards_setSteward hsingle rfl) rfl rfl rfl rfl
    (fun _ hmem => .inl hmem) ?_ ⟨⟨honline.alive, honline.writer, ?_⟩, rfl, ?_⟩
  · rw [hmap, List.nodup_append]
    refine ⟨hguided.distinct, List.nodup_singleton _, ?_⟩
    intro other hother last hlast hequal
    rw [hequal, List.mem_singleton.mp hlast] at hother
    exact hunread hother
  · intro reader hmem hreading
    rcases List.mem_append.mp hmem with hold | hnew
    · exact honline.readers reader (hreads reader hold hreading) hreading
    · rw [List.mem_singleton.mp hnew]
  · rw [hmap]
    exact List.mem_append_right _ (List.mem_singleton_self _)

/-- When its connection is lost, the session goes offline and knows how its reader ended. -/
theorem Guided.lose (hguided : session.Guided) (hsingle : session.stewards = [steward])
    {exit : ReaderExit} (hstage : steward.stage = .serving connection)
    (hexit : session.exit? connection = some exit) :
    Proceeds session (session.concludeServing steward exit).1 := by
  have hupkeep := hguided.upkeep_of_single hsingle
  rw [hstage] at hupkeep
  obtain ⟨honline, hattended⟩ := hupkeep
  refine hguided.proceeds hsingle (stewards_concludeServing hsingle exit) rfl rfl rfl rfl
    (fun _ hmem => .inl hmem) hguided.distinct
    ⟨⟨rfl, rfl, rfl, ?_⟩, connection, hattended.1, hexit⟩
  intro reader hmem hreads
  have hsame := honline.readers reader hmem hreads
  exact not_isReading_of_exit? hguided.distinct hmem (hsame ▸ hexit) hreads

/-- A steward's turn leaves the session with that steward, or with none. -/
theorem StewardTurn.proceeds (hturn : StewardTurn around session steward outcome)
    (hsteward : session.steward? id = some steward) (hguided : session.Guided) :
    Proceeds session outcome.1 := by
  have hsingle := hguided.stewards_eq hsteward
  have hupkeep := hguided.upkeep_of_single hsingle
  cases hturn with
  | @attach connection hstage =>
      rw [hstage] at hupkeep
      obtain ⟨hoffline, hunread⟩ := hupkeep
      exact hguided.proceeds hsingle (stewards_attach hsingle connection) rfl rfl rfl rfl
        (fun _ hmem => .inl hmem) hguided.distinct
        ⟨⟨rfl, rfl, fun reader hmem hreads => absurd hreads (hoffline.readers reader hmem)⟩,
          hunread⟩
  | listen hstage =>
      rw [hstage] at hupkeep
      exact hguided.listen hsingle hupkeep.1 hupkeep.2
  | unfit hstage =>
      rw [hstage] at hupkeep
      exact hguided.failGreeting hsingle hupkeep.1 _
  | @unsent connection params failure hstage =>
      rw [hstage] at hupkeep
      have hcounted := hguided.counted
      exact hcounted.trans (hcounted.guided.failGreeting hsingle
        ⟨hupkeep.1.alive, hupkeep.1.writer, hupkeep.1.readers⟩ failure)
  | @greet connection params effect hstage =>
      rw [hstage] at hupkeep
      have henrolled := hguided.enrolled hupkeep.1.alive
      exact henrolled.trans (henrolled.guided.setSteward hsingle rfl
        ⟨⟨hupkeep.1.alive, hupkeep.1.writer, hupkeep.1.readers⟩, hupkeep.2⟩)
  | @refused connection request deadline next answer failure hstage hpoll =>
      rw [hstage] at hupkeep
      have hnext := hguided.poll hpoll
      obtain ⟨pending, settled, rfl, -⟩ := poll_eq hpoll
      exact hnext.trans (hnext.guided.failGreeting hsingle
        ⟨hupkeep.1.alive, hupkeep.1.writer, hupkeep.1.readers⟩ failure)
  | @welcomed connection request deadline next answer welcome effect lines hstage hpoll =>
      rw [hstage] at hupkeep
      have hnext := hguided.poll hpoll
      obtain ⟨pending, settled, rfl, -⟩ := poll_eq hpoll
      refine hnext.trans (hnext.guided.proceeds hsingle (stewards_setSteward hsingle rfl) rfl rfl
        rfl rfl ?_ hguided.distinct
        ⟨⟨hupkeep.1.alive, hupkeep.1.writer, hupkeep.1.readers⟩, hupkeep.2⟩)
      intro entry hmem
      refine (List.mem_append.mp hmem).imp_right fun hnew => ?_
      rw [news] at hnew
      split at hnew
      · exact absurd hnew List.not_mem_nil
      · rw [List.mem_singleton.mp hnew]
        exact ⟨rfl, welcome, rfl⟩
  | lose hstage hexit => exact hguided.lose hsingle hstage hexit
  | retire hstage | resign hstage | exhaust hstage =>
      rw [hstage] at hupkeep
      exact hguided.dropSteward hsingle hupkeep.1
  | reconnect hstage =>
      rw [hstage] at hupkeep
      have hoffline := hupkeep.1
      exact hguided.setSteward hsingle rfl
        ⟨hoffline.alive, hoffline.writer, hoffline.pending, hoffline.readers⟩

/-- Who ends all tasks and closes the session leaves it without a steward. -/
theorem Guided.abandon (hguided : session.Guided) (call : Call)
    (hcall : call = session.call ∨ call ≠ .connecting ∧ ∀ id, call ≠ .starting id) :
    Proceeds session { session.abandonTasks.close.1 with call := call } := by
  have hrest : session.abandonTasks.ready = session.ready ∧
      session.abandonTasks.nextSteward = session.nextSteward := by
    rw [abandonTasks_eq]
    exact ⟨rfl, rfl⟩
  refine proceeds_of_none hguided.sole.abandonTasks_stewards hcall hrest.2
    (fun entry hmem => .inl (hrest.1 ▸ hmem)) ?_ ⟨rfl, rfl, rfl, hguided.upkeep.led.abandonTasks⟩
  have hconnections : session.abandonTasks.readers.map Reader.connection =
      session.readers.map Reader.connection := connections_abandonTasks
  exact hconnections.symm ▸ hguided.distinct

theorem Guided.concludeStop (hguided : session.Guided) (result : Except ClientError Unit) :
    Proceeds session (session.concludeStop result).1 :=
  hguided.abandon .idle (.inr ⟨by simp, by simp⟩)

/-- A start that fails finds no steward any more. -/
theorem Guided.failStart (hguided : session.Guided) (hnone : session.stewards = [])
    (failure : ClientError) : Proceeds session (session.abandonTasks.failStart failure).1 := by
  have hoffline := hguided.offline_of_none hnone
  have hreaders := hguided.upkeep.led.abandonTasks
  have hconnections : session.abandonTasks.readers.map Reader.connection =
      session.readers.map Reader.connection := connections_abandonTasks
  have hstewards := hguided.sole.abandonTasks_stewards
  rw [Session.failStart]
  rw [abandonTasks_eq] at hreaders hconnections hstewards ⊢
  exact proceeds_of_none hstewards (.inr ⟨by simp, by simp⟩) rfl (fun _ hmem => .inl hmem)
    (hconnections.symm ▸ hguided.distinct)
    ⟨hoffline.alive, hoffline.writer, hoffline.pending, hreaders⟩

/-- Where a start has failed there is no steward: either it said so, or it went away without a
word. -/
def Parting (session : Session) : Prop :=
  ∀ id, session.call = .starting id →
    (∃ failure, (id, .error failure) ∈ session.ready) ∨ session.steward? id = none →
      session.stewards = []

theorem CallTurn.proceeds (hturn : CallTurn around session outcome) (hguided : session.Guided)
    (hparting : session.Parting) : Proceeds session outcome.1 := by
  have hheard (id : StewardId) :
      Proceeds session { session with ready := session.ready.filter (·.1 ≠ id) } := by
    have hkeeps : Keeps session { session with ready := session.ready.filter (·.1 ≠ id) } :=
      keeps_of_eq rfl rfl rfl rfl rfl
    exact hkeeps.proceeds hguided rfl rfl (.inl rfl) (fun _ hmem => (List.mem_filter.mp hmem).1) rfl
  cases hturn with
  | @started id welcome hcall hready =>
      have hkeeps : Keeps session { session with
          ready := session.ready.filter (·.1 ≠ id), welcome := some welcome, call := .idle } :=
        keeps_of_eq rfl rfl rfl rfl rfl
      exact hkeeps.proceeds hguided rfl rfl (.inr ⟨by simp, by simp⟩)
        (fun _ hmem => (List.mem_filter.mp hmem).1) rfl
  | @failed id failure hcall hready =>
      have hnone := hparting id hcall (.inl ⟨failure, Ledger.mem_of_lookup hready⟩)
      exact (hheard id).trans ((hheard id).guided.failStart hnone failure)
  | @orphaned id hcall hready hgone =>
      exact hguided.failStart (hparting id hcall (.inr hgone)) .connectionClosed
  | @refused request deadline next answer failure hcall hpoll =>
      exact (hguided.poll hpoll).trans ((hguided.poll hpoll).guided.concludeStop (.error failure))
  | agreed hcall hpoll =>
      exact (hguided.poll hpoll).trans ((hguided.poll hpoll).guided.concludeStop (.ok ()))

theorem unread_of_isNew (hnew : session.IsNew connection) : session.Unread connection := by
  intro hmem
  obtain ⟨reader, hreader, hsame⟩ := List.mem_map.mp hmem
  exact hnew.1 reader hreader hsame

theorem Guided.offline_of_awaits (hguided : session.Guided)
    (hsteward : session.steward? id = some steward) (hstage : steward.stage = .reconnecting) :
    session.Offline := by
  have hupkeep := hguided.upkeep_of_single (hguided.stewards_eq hsteward)
  rw [hstage] at hupkeep
  exact hupkeep

/-- A start that gets its connection gives the session a steward. -/
theorem Guided.supplyStart (hguided : session.Guided) (hcall : session.call = .connecting)
    (hnew : session.IsNew connection) : (session.supplyStart (.ok connection)).1.Guided := by
  have hnone := hguided.sole.2 hcall
  have hoffline := hguided.offline_of_none hnone
  have hunread : session.Unread connection := unread_of_isNew hnew
  have hstewards : (session.supplyStart (.ok connection)).1.stewards =
      [⟨session.nextSteward, .connected connection, 0, false⟩] := by
    show session.stewards ++ [⟨session.nextSteward, .connected connection, 0, false⟩] = _
    rw [hnone]
    rfl
  exact guided_of_single hstewards rfl (by simp [Session.supplyStart]) hguided.distinct
    ⟨⟨hoffline.alive, hoffline.writer, hoffline.pending, hoffline.readers⟩, hunread⟩

/-- Does a move begin a start, or bring it a connection? -/
def Move.Starts : Move → Prop
  | .start | .supply .start (.ok _) => True
  | _ => False

/-- Every move but a start and its connection leaves the session with the steward that it had, or
with none. -/
theorem Passage.proceeds {move : Move} (hpassage : Passage session move outcome)
    (hguided : session.Guided) (hparting : session.Parting) (hother : ¬move.Starts) :
    Proceeds session outcome.1 := by
  have hhalting : Proceeds session session.halting := by
    have hkeeps : Keeps session session.halting := keeps_of_eq rfl rfl rfl rfl rfl
    exact hkeeps.proceeds hguided rfl rfl (.inl rfl) (fun _ hmem => hmem) rfl
  cases hpassage with
  | start => exact absurd trivial hother
  | supplyStart => exact absurd trivial hother
  | stopDead => exact hhalting.trans (hhalting.guided.concludeStop _)
  | stopUnsent =>
      have hcounted := hhalting.trans hhalting.guided.counted
      exact hcounted.trans (hcounted.guided.concludeStop _)
  | @stop around effect hidle halive =>
      have henrolled := hhalting.trans (hhalting.guided.enrolled halive)
      have hkeeps : Keeps session.halting.enrolled { session.halting.enrolled with
          call := .stopping (.number session.nextRequest) (around.now + shutdownTimeout) } :=
        keeps_of_eq rfl rfl rfl rfl rfl
      exact henrolled.trans (hkeeps.proceeds henrolled.guided rfl rfl (.inr ⟨by simp, by simp⟩)
        (fun _ hmem => hmem) rfl)
  | abandon =>
      exact hguided.abandon session.abandonTasks.call (.inl (abandonTasks_call session))
  | openDocument =>
      exact hguided.proceeds_of_eq rfl rfl (.inl rfl) (fun _ hmem => hmem) rfl hguided.distinct
        hguided.upkeep
  | steward hsteward hturn => exact hturn.proceeds hsteward hguided
  | reader hreader hexit hconnection hturn =>
      have hkeeps := hturn.keeps hreader hexit
      obtain ⟨pending, settled, hafter, -⟩ := hturn.frame hexit
      rw [hafter] at hkeeps ⊢
      exact hkeeps.proceeds hguided rfl rfl (.inl rfl) (fun _ hmem => hmem) rfl
  | call hturn => exact hturn.proceeds hguided hparting
  | refuseStart =>
      have hidle : Keeps session { session with call := .idle } :=
        keeps_of_eq rfl rfl rfl rfl rfl
      exact hidle.proceeds hguided rfl rfl (.inr ⟨by simp, by simp⟩) (fun _ hmem => hmem) rfl
  | @resupply id steward connection hsteward hstage hnew =>
      have hoffline := hguided.offline_of_awaits hsteward hstage
      have hunread : session.Unread connection := unread_of_isNew hnew
      exact hguided.setSteward (hguided.stewards_eq hsteward) rfl
        ⟨⟨hoffline.alive, hoffline.writer, hoffline.pending, hoffline.readers⟩, hunread⟩
  | @refuse id steward causes line hsteward hstage =>
      rw [← (steward?_eq_some hsteward).2]
      exact hguided.dropSteward (hguided.stewards_eq hsteward)
        (hguided.offline_of_awaits hsteward hstage)

end Steps

end NplLifecycle.Session
