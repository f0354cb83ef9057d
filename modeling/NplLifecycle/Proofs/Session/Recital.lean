import Mathlib.Data.List.Induction
import NplLifecycle.Proofs.Session.Hearing

/-!
# Reading a stream aloud

What a reader makes of its connection can be said without its buffer and without its turns: the
frames of the whole stream are gone through from left to right, messages are dispatched and faults
are put before the error handler, each with its number, until the handler ends the reading or the
stream does.  This is the recital of the stream.  What a reader does in one turn takes the recital
one frame further.
-/

namespace NplLifecycle.Session

/-- What comes of a frame or of a failed read. -/
inductive Report where
  /-- A message was dispatched. -/
  | dispatched (message : Message)
  /-- A fault was put before the error handler, which decided. -/
  | faulted (event : ConnectionEvent) (decision : Decision)

inductive StreamEnd where
  | finish
  | failure (cause : String)
  deriving DecidableEq, Repr

def Arrival.content : Arrival → List UInt8
  | .bytes chunk => chunk
  | .finish | .failure _ => []

def Arrival.ending? : Arrival → Option StreamEnd
  | .bytes _ => none
  | .finish => some .finish
  | .failure cause => some (.failure cause)

def StreamEnd.arrival : StreamEnd → Arrival
  | .finish => .finish
  | .failure cause => .failure cause

def bytesOf (arrivals : List Arrival) : List UInt8 :=
  arrivals.flatMap Arrival.content

def endingOf? (arrivals : List Arrival) : Option StreamEnd :=
  arrivals.findSome? Arrival.ending?

structure Recital where
  reports : List Report
  faults : Nat
  exit : Option ReaderExit

namespace Recital

def start : Recital :=
  ⟨[], 0, none⟩

def fault (decide : ConnectionEvent → Decision) (recital : Recital) (event : ConnectionEvent) :
    Recital where
  reports := recital.reports ++ [.faulted event (decide event)]
  faults := recital.faults + 1
  exit := exitAfter (decide event)

def take (decide : ConnectionEvent → Decision) (recital : Recital) (found : Frame.Outcome) :
    Recital :=
  if recital.exit.isSome then recital
  else
    match told found (recital.faults + 1) with
    | .error event => recital.fault decide event
    | .ok message => { recital with reports := recital.reports ++ [.dispatched message] }

/-- Comes to the end of the stream, unless the reading is over. -/
def conclude (decide : ConnectionEvent → Decision) (recital : Recital) (ending : StreamEnd) :
    Recital :=
  if recital.exit.isSome then recital
  else
    match ending with
    | .finish => { recital with exit := some .closed }
    | .failure cause =>
      let last := recital.fault decide (faultEvent (.stream cause) none (recital.faults + 1))
      { last with exit := some (last.exit.getD .closed) }

end Recital

/-- What comes of frames, from left to right. -/
def recite (decide : ConnectionEvent → Decision) (frames : List Frame.Outcome) : Recital :=
  frames.foldl (Recital.take decide) .start

/-- What comes of a stream and of its end, if it has ended. -/
def recital (decide : ConnectionEvent → Decision) (bytes : List UInt8) (ending : Option StreamEnd) :
    Recital :=
  let frames := recite decide (Frame.drain bytes).1
  ending.elim frames (frames.conclude decide)

section Folding

variable {decide : ConnectionEvent → Decision} {frames : List Frame.Outcome}
  {found : Frame.Outcome} {sofar : Recital} {exit : ReaderExit}

/-- Once the reading is over nothing comes of further frames. -/
theorem foldl_take_of_exit (hexit : sofar.exit = some exit) :
    frames.foldl (Recital.take decide) sofar = sofar := by
  induction frames with
  | nil => rfl
  | cons found frames ih =>
      have hover : sofar.take decide found = sofar := by
        rw [Recital.take, if_pos (by simp [hexit])]
      rw [List.foldl_cons, hover, ih]

theorem recite_append (frames more : List Frame.Outcome) :
    recite decide (frames ++ more) = more.foldl (Recital.take decide) (recite decide frames) :=
  List.foldl_append

/-- The reading of frames goes on, or was ended by the error handler. -/
theorem recite_exit (frames : List Frame.Outcome) :
    (recite decide frames).exit = none ∨ (recite decide frames).exit = some .aborted := by
  induction frames using List.reverseRecOn with
  | nil => exact .inl rfl
  | append_singleton frames found ih =>
      rw [recite_append, List.foldl_cons, List.foldl_nil, Recital.take]
      split
      · exact ih
      · rename_i hreads
        cases told found ((recite decide frames).faults + 1) with
        | ok message => exact ih
        | error event =>
            dsimp only [Recital.fault]
            cases decide event with
            | proceed => exact .inl rfl
            | abort => exact .inr rfl

theorem conclude_of_exit (hexit : sofar.exit = some exit) (ending : StreamEnd) :
    sofar.conclude decide ending = sofar := by
  cases ending <;> simp [Recital.conclude, hexit]

/-- After an abort nothing more comes of the stream, however it goes on. -/
theorem recital_of_aborted {bytes : List UInt8} {behind : List Frame.Outcome}
    (hframes : (Frame.drain bytes).1 = frames ++ behind)
    (hexit : (recite decide frames).exit = some exit) (more : List UInt8)
    (ending : Option StreamEnd) : recital decide (bytes ++ more) ending = recite decide frames := by
  have hall : recite decide (Frame.drain (bytes ++ more)).1 = recite decide frames := by
    rw [Frame.drain_append, hframes, List.append_assoc, recite_append, foldl_take_of_exit hexit]
  rw [recital, hall]
  cases ending with
  | none => rfl
  | some ending => exact conclude_of_exit hexit ending

end Folding

/-- The number of a fault; zero if what is reported as one has none. -/
def Report.count? : Report → Option Nat
  | .dispatched _ => none
  | .faulted (.fault _ _ count) _ => some count
  | .faulted .closed _ => some 0

def Report.decisionOn? (event : ConnectionEvent) : Report → Option Decision
  | .dispatched _ => none
  | .faulted other decision => if other = event then some decision else none

/-- The error handler decided as told.  Each fault of a connection has its own number, so that the
decisions of any error handler about the faults of a connection are such a function, whatever else
it was asked and whatever it keeps in mind. -/
def Heeds (decide : ConnectionEvent → Decision) (reports : List Report) : Prop :=
  ∀ event decision, .faulted event decision ∈ reports → decide event = decision

/-! What a reader does in a turn, and what is noted of it. -/

inductive Notice where
  /-- What had arrived on a connection was taken. -/
  | taken (connection : ConnectionId) (arrival : Arrival)
  /-- Something came of a frame of the connection, or of a failed read. -/
  | reported (connection : ConnectionId) (report : Report)

def Notice.arrivalOn? (connection : ConnectionId) : Notice → Option Arrival
  | .taken other arrival => if other = connection then some arrival else none
  | .reported .. => none

def Notice.reportOn? (connection : ConnectionId) : Notice → Option Report
  | .taken .. => none
  | .reported other report => if other = connection then some report else none

def arrivalsOn (connection : ConnectionId) (notices : List Notice) : List Arrival :=
  notices.filterMap (Notice.arrivalOn? connection)

def reportsOn (connection : ConnectionId) (notices : List Notice) : List Report :=
  notices.filterMap (Notice.reportOn? connection)

/-- What comes of a frame under an error handler, as the fault of a number if it is one. -/
def reportOf (decide : ConnectionEvent → Decision) (found : Frame.Outcome) (count : Nat) : Report :=
  match told found count with
  | .error event => .faulted event (decide event)
  | .ok message => .dispatched message

/-- What is noted when a reader does something. -/
def Reading.notices (decide : ConnectionEvent → Decision) (reader : Reader) :
    Reading → List Notice
  | .quit => []
  | .handle found _ => [.reported reader.connection (reportOf decide found (reader.faults + 1))]
  | .take (.failure cause) =>
    let event := faultEvent (.stream cause) none (reader.faults + 1)
    [.taken reader.connection (.failure cause),
      .reported reader.connection (.faulted event (decide event))]
  | .take arrival => [.taken reader.connection arrival]

/-- What is noted of the next turn of the reader of a connection. -/
def notices (around : Surroundings) (session : Session) (connection : ConnectionId) :
    List Notice :=
  (session.reading? around connection).elim [] fun (reader, reading) =>
    reading.notices around.decide reader

def noticed (session : Session) : Move → List Notice
  | .task around (.reader connection) => session.notices around connection
  | _ => []

section Turns

variable {session : Session} {around : Surroundings} {reader changed : Reader} {reading : Reading}
  {found : Frame.Outcome} {rest : List UInt8} {outcome : Session × List Effect}
  {decide : ConnectionEvent → Decision}

theorem notices_of_message {message : Message}
    (htold : told found (reader.faults + 1) = .ok message) :
    (Reading.handle found rest).notices decide reader =
      [.reported reader.connection (.dispatched message)] := by
  rw [Reading.notices, reportOf, htold]

theorem notices_of_fault {event : ConnectionEvent}
    (htold : told found (reader.faults + 1) = .error event) :
    (Reading.handle found rest).notices decide reader =
      [.reported reader.connection (.faulted event (decide event))] := by
  rw [Reading.notices, reportOf, htold]

theorem ReaderTurn.notices_eq (hturn : ReaderTurn around session reader reading changed outcome)
    (hreader : session.reader? reader.connection = some reader) (hexit : reader.exit = none) :
    session.notices around reader.connection = reading.notices around.decide reader := by
  rw [Session.notices, hturn.reading?_eq hreader hexit]
  rfl

end Turns

end NplLifecycle.Session
