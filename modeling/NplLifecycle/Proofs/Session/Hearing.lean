import NplLifecycle.Proofs.Frame.Stream
import NplLifecycle.Proofs.Session.Budget
import NplLifecycle.Proofs.Session.Places
import NplLifecycle.Proofs.Session.Tenure
import NplLifecycle.Proofs.Session.Writing

/-!
# What readers hear

A reader takes bytes from its connection and handles the frames that they come to, however they were
cut into chunks.  It answers each request of the server as soon as it handles its frame, on the
connection that the session sends on at that time; nobody else sends responses.  Where no start
begins beside a steward, whoever reads reads from the connection that the session sends on.
-/

namespace NplLifecycle.Session

/-- What a reader does with what its connection brings. -/
inductive Hearing where
  /-- Bytes are taken from a connection. -/
  | chunk (connection : ConnectionId) (bytes : List UInt8)
  /-- A frame of a connection is handled; the session can send on a connection at that time, or on
  none. -/
  | frame (connection : ConnectionId) (outcome : Frame.Outcome) (outlet : Option ConnectionId)

namespace Hearing

def connection : Hearing → ConnectionId
  | .chunk connection _ => connection
  | .frame connection _ _ => connection

def bytesOn (connection : ConnectionId) : Hearing → List UInt8
  | .chunk other bytes => if other = connection then bytes else []
  | .frame .. => []

def frameOn? (connection : ConnectionId) : Hearing → Option Frame.Outcome
  | .chunk .. => none
  | .frame other outcome _ => if other = connection then some outcome else none

end Hearing

def bytesOn (connection : ConnectionId) (heard : List Hearing) : List UInt8 :=
  heard.flatMap (Hearing.bytesOn connection)

def framesOn (connection : ConnectionId) (heard : List Hearing) : List Frame.Outcome :=
  heard.filterMap (Hearing.frameOn? connection)

def outlet? (around : Surroundings) (session : Session) : Option ConnectionId :=
  session.writer.filter fun connection => (around.writeFault connection).isNone

def Reading.hearings (connection : ConnectionId) (outlet : Option ConnectionId) :
    Reading → List Hearing
  | .handle outcome _ => [.frame connection outcome outlet]
  | .take (.bytes chunk) => [.chunk connection chunk]
  | _ => []

/-- What is heard in the next turn of the reader of a connection. -/
def hears (around : Surroundings) (session : Session) (connection : ConnectionId) :
    List Hearing :=
  (session.reading? around connection).elim [] fun (_, reading) =>
    reading.hearings connection (session.outlet? around)

def hearings (session : Session) : Move → List Hearing
  | .task around (.reader connection) => session.hears around connection
  | _ => []

def requestIn? : Frame.Outcome → Option Request
  | .error _ => none
  | .ok body =>
    match Message.decode body with
    | .ok (.request request) => some request
    | _ => none

def answerTo (profile : ClientProfile) (request : Request) : Response :=
  ((fresh profile).reply request).1

/-- The response to what was heard, and the connection that it goes out on. -/
def Hearing.answer? (profile : ClientProfile) : Hearing → Option (ConnectionId × Response)
  | .frame _ outcome (some outlet) =>
    (requestIn? outcome).map fun request => (outlet, answerTo profile request)
  | _ => none

section Sending

variable {session : Session} {around : Surroundings}

/-- A request is answered on the connection that the session can send on. -/
theorem repliesIn_handleRequest (request : Request) :
    repliesIn (session.handleRequest around request) =
      ((session.outlet? around).map fun outlet =>
        (outlet, answerTo session.profile request)).toList := by
  have hanswer : (session.reply request).1 = answerTo session.profile request := rfl
  simp only [handleRequest, send, outlet?]
  rw [repliesIn_append, repliesIn_of_unwritten (writtenIn_logs _)]
  cases session.writer with
  | none => rfl
  | some connection =>
      cases hfault : around.writeFault connection with
      | none =>
          simp only [hfault, Option.filter_some]
          exact congrArg (fun response => [(connection, response)]) hanswer
      | some cause =>
          simp only [hfault, Option.filter_some]
          rfl

end Sending

section Hearing

variable {session after : Session} {around : Surroundings} {reader changed : Reader}
  {reading : Reading} {outcome : Session × List Effect} {move : Move}

/-- The bytes of a connection so far come to the frames that were handled and to what is still in
the buffer. -/
def Streams (bytes : List UInt8) (frames : List Frame.Outcome) (buffer : List UInt8) : Prop :=
  Frame.drain bytes = (frames ++ (Frame.drain buffer).1, (Frame.drain buffer).2)

/-- A frame is handled. -/
theorem Streams.frame {bytes buffer rest : List UInt8} {frames : List Frame.Outcome}
    {found : Frame.Outcome} (hstreams : Streams bytes frames buffer)
    (hframe : Frame.next? buffer = some (found, rest)) :
    Streams bytes (frames ++ [found]) rest := by
  rw [Streams, Frame.drain_of_some hframe] at hstreams
  rw [Streams, hstreams, List.append_assoc, List.singleton_append]

/-- Bytes are taken where no whole frame is left. -/
theorem Streams.chunk {bytes buffer : List UInt8} {frames : List Frame.Outcome}
    (hstreams : Streams bytes frames buffer) (hframe : Frame.next? buffer = none)
    (chunk : List UInt8) : Streams (bytes ++ chunk) frames (buffer ++ chunk) := by
  rw [Streams, Frame.drain_of_none hframe, List.append_nil] at hstreams
  rw [Streams, Frame.drain_append, hstreams]

theorem ReaderTurn.hears_eq (hturn : ReaderTurn around session reader reading changed outcome)
    (hreader : session.reader? reader.connection = some reader) (hexit : reader.exit = none) :
    session.hears around reader.connection =
      reading.hearings reader.connection (session.outlet? around) := by
  rw [hears, hturn.reading?_eq hreader hexit]
  rfl

theorem requestIn?_of_told {found : Frame.Outcome} {count : Nat} {message : Message}
    (htold : told found count = .ok message) :
    requestIn? found = match message with
      | .request request => some request
      | _ => none := by
  obtain ⟨body, rfl, hdecode⟩ := told_eq_ok.mp htold
  simp only [requestIn?, hdecode]
  cases message <;> rfl

theorem requestIn?_of_fault {found : Frame.Outcome} {count : Nat} {event : ConnectionEvent}
    (htold : told found count = .error event) : requestIn? found = none := by
  cases found with
  | error fault => rfl
  | ok body => cases hdecode : Message.decode body <;> simp_all [requestIn?, told]

/-- A frame without a request is not answered. -/
theorem answers_of_none {found : Frame.Outcome} (hnone : requestIn? found = none)
    (profile : ClientProfile) (connection : ConnectionId) (outlet : Option ConnectionId) :
    [Hearing.frame connection found outlet].filterMap (Hearing.answer? profile) = [] := by
  cases outlet <;> simp [Hearing.answer?, hnone]

/-- A frame with a request is answered where that can be. -/
theorem answers_of_request {found : Frame.Outcome} {request : Request}
    (hrequest : requestIn? found = some request) (profile : ClientProfile)
    (connection : ConnectionId) (outlet : Option ConnectionId) :
    [Hearing.frame connection found outlet].filterMap (Hearing.answer? profile) =
      (outlet.map fun outlet => (outlet, answerTo profile request)).toList := by
  cases outlet <;> simp [Hearing.answer?, hrequest]

/-- What a reader sends in its turn is the response to what it hears. -/
theorem ReaderTurn.repliesIn_eq
    (hturn : ReaderTurn around session reader reading changed outcome) :
    repliesIn outcome.2 = (reading.hearings reader.connection (session.outlet? around)).filterMap
      (Hearing.answer? session.profile) := by
  cases hturn with
  | cancelled | bytes | finish | failure => rfl
  | fault _ _ htold =>
      rw [Reading.hearings, answers_of_none (requestIn?_of_fault htold)]
      rfl
  | @message found rest message _ _ htold =>
      rw [Reading.hearings]
      cases message with
      | request request =>
          rw [answers_of_request (requestIn?_of_told htold)]
          exact repliesIn_handleRequest request
      | notification notification =>
          rw [answers_of_none (requestIn?_of_told htold)]
          rfl
      | response response =>
          rw [answers_of_none (requestIn?_of_told htold)]
          simp only [dispatch, handleResponse]
          split
          · rfl
          · split <;> rfl

/-- What a reader hears takes its stream further. -/
theorem ReaderTurn.streams {bytes : List UInt8} {frames : List Frame.Outcome}
    (hturn : ReaderTurn around session reader reading changed outcome)
    (outlet : Option ConnectionId) (hstreams : Streams bytes frames reader.buffer) :
    Streams (bytes ++ bytesOn reader.connection (reading.hearings reader.connection outlet))
      (frames ++ framesOn reader.connection (reading.hearings reader.connection outlet))
      changed.buffer := by
  cases hturn with
  | cancelled | finish | failure =>
      simpa [Reading.hearings, bytesOn, framesOn] using hstreams
  | fault _ hframe | message _ hframe =>
      simpa [Reading.hearings, bytesOn, framesOn, Hearing.bytesOn, Hearing.frameOn?] using
        hstreams.frame hframe
  | @bytes chunk _ hframe =>
      simpa [Reading.hearings, bytesOn, framesOn, Hearing.bytesOn, Hearing.frameOn?,
        List.filterMap_cons] using hstreams.chunk hframe chunk

/-- Whatever is heard when a reader does something is heard on its connection. -/
theorem connection_of_hearings {connection : ConnectionId} {outlet : Option ConnectionId}
    {hearing : Hearing} (hmem : hearing ∈ reading.hearings connection outlet) :
    hearing.connection = connection := by
  cases reading with
  | quit => exact absurd hmem List.not_mem_nil
  | handle found rest =>
      rw [List.mem_singleton.mp hmem]
      rfl
  | take arrival =>
      cases arrival with
      | bytes chunk =>
          rw [List.mem_singleton.mp hmem]
          rfl
      | finish | failure => exact absurd hmem List.not_mem_nil

theorem on_of_ne {connection : ConnectionId} {heard : List Hearing}
    (hother : ∀ hearing ∈ heard, hearing.connection ≠ connection) :
    bytesOn connection heard = [] ∧ framesOn connection heard = [] := by
  constructor
  · refine List.flatMap_eq_nil_iff.mpr fun hearing hmem => ?_
    cases hearing with
    | chunk other bytes => exact if_neg (hother _ hmem)
    | frame other found outlet => rfl
  · refine List.filterMap_eq_nil_iff.mpr fun hearing hmem => ?_
    cases hearing with
    | chunk other bytes => rfl
    | frame other found outlet => exact if_neg (hother _ hmem)

theorem bytesOn_append (connection : ConnectionId) (early late : List Hearing) :
    bytesOn connection (early ++ late) = bytesOn connection early ++ bytesOn connection late :=
  List.flatMap_append

theorem framesOn_append (connection : ConnectionId) (early late : List Hearing) :
    framesOn connection (early ++ late) = framesOn connection early ++ framesOn connection late :=
  List.filterMap_append

end Hearing

section Moves

variable {session middle after : Session} {around : Surroundings} {steward : Steward}
  {id : StewardId} {outcome : Session × List Effect} {move : Move} {heard : List Hearing}

/-- The client that a session is one of stays the same. -/
theorem Passage.profile (hpassage : Passage session move outcome) :
    outcome.1.profile = session.profile := by
  by_cases hstart : move = .start
  · subst hstart
    cases hpassage
    rfl
  · cases hpassage.spending hstart with
    | spare hnone hspares => exact hspares.profile
    | first hnone hprofile => exact hprofile
    | renew hmove hmem hstopping hdecision hlimit houtcome => rw [houtcome]; rfl

/-- The responses that go out in a move are those to what is heard in it. -/
theorem Passage.repliesIn_eq (hpassage : Passage session move outcome) :
    repliesIn outcome.2 =
      (session.hearings move).filterMap (Hearing.answer? session.profile) := by
  cases hpassage with
  | stopDead | stopUnsent => exact repliesIn_of_unwritten (writtenIn_concludeStop _)
  | stop hidle halive hsend =>
      obtain ⟨connection, -, hwritten⟩ := writtenIn_send [] hsend
      rw [repliesIn, hwritten]
      rfl
  | abandon => exact repliesIn_of_unwritten (writtenIn_hangUps _)
  | openDocument heffects =>
      refine List.filterMap_eq_nil_iff.mpr fun message hmem => ?_
      obtain ⟨effect, hmem, hwritten⟩ := List.mem_filterMap.mp hmem
      obtain ⟨connection, params, rfl⟩ := heffects effect hmem
      obtain rfl := Option.some.inj hwritten
      rfl
  | steward hsteward hturn => exact hturn.repliesIn_eq_nil
  | reader hreader hexit hconnection hturn =>
      subst hconnection
      rw [hearings, hturn.hears_eq hreader hexit]
      exact hturn.repliesIn_eq
  | call hturn => exact hturn.repliesIn_eq_nil
  | _ => rfl

/-- A reader stays as it is, but that it may be told to end. -/
structure Stays (old reader : Reader) : Prop where
  connection : old.connection = reader.connection
  buffer : old.buffer = reader.buffer
  faults : old.faults = reader.faults
  exit : old.exit = reader.exit
  cancelled : old.isCancelled = true → reader.isCancelled = true

theorem stays_refl (reader : Reader) : Stays reader reader :=
  ⟨rfl, rfl, rfl, rfl, fun hcancelled => hcancelled⟩

/-- Readers stay as they are, and a new one begins with nothing on a connection that nobody has read
from. -/
def Retains (before after : Session) : Prop :=
  ∀ reader ∈ after.readers,
    (∃ old ∈ before.readers, Stays old reader) ∨
      reader = ⟨reader.connection, [], 0, false, none⟩ ∧ before.Unread reader.connection

theorem retains_of_eq (hreaders : after.readers = session.readers) : Retains session after :=
  fun reader hmem => .inl ⟨reader, hreaders ▸ hmem, stays_refl reader⟩

theorem retains_cancelReader {connection : ConnectionId}
    (hreaders : after.readers = (session.cancelReader connection).readers) :
    Retains session after := by
  intro reader hmem
  rw [hreaders] at hmem
  obtain ⟨old, hold, rfl⟩ := List.mem_map.mp hmem
  refine .inl ⟨old, hold, ?_⟩
  split
  · exact ⟨rfl, rfl, rfl, rfl, fun _ => rfl⟩
  · exact stays_refl old

theorem retains_abandonTasks (hreaders : after.readers = session.abandonTasks.readers) :
    Retains session after := by
  rw [abandonTasks_readers] at hreaders
  cases hreader : session.reader with
  | none => exact retains_of_eq (by simpa [hreader] using hreaders)
  | some connection => exact retains_cancelReader (by simpa [hreader] using hreaders)

theorem Retains.of_same (hretains : Retains middle after)
    (hsame : middle.readers = session.readers) : Retains session after := by
  intro reader hmem
  rw [← hsame, Unread, ← hsame]
  exact hretains reader hmem

theorem retains_concludeStop (result : Except ClientError Unit) :
    Retains session (session.concludeStop result).1 :=
  retains_abandonTasks rfl

theorem retains_failStart (failure : ClientError) :
    Retains session (session.abandonTasks.failStart failure).1 :=
  retains_abandonTasks rfl

theorem retains_failGreeting {connection : ConnectionId} {failure : ClientError} :
    Retains session (session.failGreeting steward connection failure).1 := by
  have hreaders : (session.failGreeting steward connection failure).1.readers =
      (session.cancelReader connection).readers := by
    rw [failGreeting_eq]
    rfl
  exact retains_cancelReader hreaders

theorem retains_listen {connection : ConnectionId} (hunread : session.Unread connection) :
    Retains session (session.listen steward connection).1 := by
  rw [listen_eq]
  intro reader hmem
  rcases List.mem_append.mp hmem with hold | hnew
  · cases hreader : session.reader with
    | none =>
        rw [hreader] at hold
        exact .inl ⟨reader, hold, stays_refl reader⟩
    | some previous =>
        rw [hreader] at hold
        have hkept : Retains session (session.cancelReader previous) := retains_cancelReader rfl
        exact hkept reader hold
  · rw [List.mem_singleton.mp hnew]
    exact .inr ⟨rfl, hunread⟩

theorem StewardTurn.retains (hturn : StewardTurn around session steward outcome)
    (hmem : steward ∈ session.stewards) (hapart : session.Apart) :
    Retains session outcome.1 := by
  cases hturn with
  | @listen connection hstage =>
      refine retains_listen (hapart.unread steward hmem connection ?_)
      rw [hstage]
      exact rfl
  | unfit => exact retains_failGreeting
  | unsent => exact retains_failGreeting.of_same rfl
  | refused hstage hpoll =>
      obtain ⟨pending, settled, rfl, -⟩ := poll_eq hpoll
      exact retains_failGreeting.of_same rfl
  | welcomed hstage hpoll =>
      obtain ⟨pending, settled, rfl, -⟩ := poll_eq hpoll
      exact retains_of_eq rfl
  | _ => exact retains_of_eq rfl

theorem CallTurn.retains (hturn : CallTurn around session outcome) :
    Retains session outcome.1 := by
  cases hturn with
  | started => exact retains_of_eq rfl
  | failed => exact (retains_failStart _).of_same rfl
  | orphaned => exact retains_failStart _
  | refused hcall hpoll =>
      obtain ⟨pending, settled, rfl, -⟩ := poll_eq hpoll
      exact (retains_concludeStop _).of_same rfl
  | agreed hcall hpoll =>
      obtain ⟨pending, settled, rfl, -⟩ := poll_eq hpoll
      exact (retains_concludeStop (.ok ())).of_same rfl

/-- Only a reader's own turn changes more of it than whether it was told to end. -/
theorem Passage.retains (hpassage : Passage session move outcome) (hapart : session.Apart)
    (hother : ∀ around connection, move ≠ .task around (.reader connection)) :
    Retains session outcome.1 := by
  cases hpassage with
  | stopDead | stopUnsent => exact (retains_concludeStop _).of_same rfl
  | abandon => exact retains_abandonTasks rfl
  | steward hsteward hturn => exact hturn.retains (steward?_eq_some hsteward).1 hapart
  | reader => exact absurd rfl (hother _ _)
  | call hturn => exact hturn.retains
  | _ => exact retains_of_eq rfl

/-- What was heard agrees with the buffers of the readers: the bytes of each connection came to the
frames that were handled and to what is in its reader's buffer. -/
structure Follows (session : Session) (heard : List Hearing) : Prop where
  known : ∀ hearing ∈ heard, hearing.connection ∈ session.readers.map Reader.connection
  streams : ∀ reader ∈ session.readers,
    Streams (bytesOn reader.connection heard) (framesOn reader.connection heard) reader.buffer

theorem Follows.retain (hfollows : session.Follows heard) (hretains : Retains session after)
    (hlasts : Lasts session after) : after.Follows heard where
  known hearing hmem := hlasts.connections _ (hfollows.known hearing hmem)
  streams := by
    intro reader hmem
    rcases hretains reader hmem with ⟨old, hold, hstays⟩ | ⟨hnew, hunread⟩
    · rw [← hstays.connection, ← hstays.buffer]
      exact hfollows.streams old hold
    · have hother : ∀ hearing ∈ heard, hearing.connection ≠ reader.connection := by
        intro hearing hheard hsame
        exact hunread (hsame ▸ hfollows.known hearing hheard)
      rw [(on_of_ne hother).1, (on_of_ne hother).2, congrArg Reader.buffer hnew]
      exact rfl

theorem Follows.read {reader changed : Reader} {reading : Reading}
    (hfollows : session.Follows heard)
    (hreader : session.reader? reader.connection = some reader) (hexit : reader.exit = none)
    (hturn : ReaderTurn around session reader reading changed outcome)
    (hlasts : Lasts session outcome.1) :
    outcome.1.Follows (heard ++ session.hears around reader.connection) where
  known := by
    intro hearing hmem
    rw [hturn.hears_eq hreader hexit] at hmem
    rcases List.mem_append.mp hmem with hearlier | hnow
    · exact hlasts.connections _ (hfollows.known hearing hearlier)
    · rw [connection_of_hearings hnow]
      exact hlasts.connections _ (List.mem_map_of_mem (reader?_eq_some hreader).1)
  streams := by
    obtain ⟨pending, settled, hafter, hsame, -⟩ := hturn.frame hexit
    intro other hmem
    rw [hafter] at hmem
    obtain ⟨old, hold, rfl⟩ := List.mem_map.mp hmem
    rw [bytesOn_append, framesOn_append, hturn.hears_eq hreader hexit]
    split
    · rw [hsame]
      exact hturn.streams _ (hfollows.streams reader (reader?_eq_some hreader).1)
    · rename_i hne
      have hother : ∀ hearing ∈ reading.hearings reader.connection (session.outlet? around),
          hearing.connection ≠ old.connection := by
        intro hearing hnow hequal
        exact hne (hequal.symm.trans ((connection_of_hearings hnow).trans hsame.symm))
      rw [(on_of_ne hother).1, (on_of_ne hother).2, List.append_nil, List.append_nil]
      exact hfollows.streams old hold

theorem Follows.step (hfollows : session.Follows heard) (hpassage : Passage session move outcome)
    (hapart : session.Apart) : outcome.1.Follows (heard ++ session.hearings move) := by
  by_cases hread : ∃ around connection, move = .task around (.reader connection)
  · obtain ⟨around, connection, rfl⟩ := hread
    have hlasts := hpassage.lasts
    cases hpassage with
    | reader hreader hexit hconnection hturn =>
        subst hconnection
        exact hfollows.read hreader hexit hturn hlasts
  · have hother : ∀ around connection, move ≠ .task around (.reader connection) :=
      fun around connection heq => hread ⟨around, connection, heq⟩
    have hsilent : session.hearings move = [] := by
      cases move with
      | task around task =>
          cases task with
          | reader connection => exact absurd rfl (hother around connection)
          | call | steward => rfl
      | _ => rfl
    rw [hsilent, List.append_nil]
    exact hfollows.retain (hpassage.retains hapart hother) hpassage.lasts

end Moves

end NplLifecycle.Session
