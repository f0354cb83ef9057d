import NplLifecycle.Session.Exchange
import NplLifecycle.Frame.Basic

/-!
# Readers

A reader takes what arrives on its connection and handles it frame by frame.  Each frame that is
no message is a fault: the error handler is told, and decides whether the reader goes on.  A
failed read is a fault too, after which there is nothing to go on with.
-/

namespace NplLifecycle.Session

def faultEvent (fault : ReadFault) (body : Option String) (count : Nat) : ConnectionEvent :=
  .fault fault.chain body count

def readFrame (around : Surroundings) (session : Session) (reader : Reader)
    (outcome : Frame.Outcome) (rest : List UInt8) : Session × List Effect :=
  let refuse := fun (fault : ReadFault) (body : Option String) =>
    let event := faultEvent fault body (reader.faults + 1)
    let decision := around.decide event
    let exit := match decision with
      | .proceed => none
      | .abort => some ReaderExit.aborted
    (session.setReader { reader with buffer := rest, faults := reader.faults + 1, exit := exit },
      [Effect.consult event decision])
  match outcome with
  | .error fault => refuse (.frame fault) none
  | .ok body =>
    match Message.decode body with
    | .error error => refuse (.message error) (some body)
    | .ok message => (session.setReader { reader with buffer := rest }).dispatch around message

def readArrival (around : Surroundings) (session : Session) (reader : Reader) :
    Arrival → Session × List Effect
  | .bytes chunk =>
    (session.setReader { reader with buffer := reader.buffer ++ chunk }, [.take reader.connection])
  | .finish =>
    (session.setReader { reader with exit := some .closed }, [.take reader.connection])
  | .failure cause =>
    let event := faultEvent (.stream cause) none (reader.faults + 1)
    let decision := around.decide event
    let exit := match decision with
      | .proceed => ReaderExit.closed
      | .abort => ReaderExit.aborted
    (session.setReader { reader with faults := reader.faults + 1, exit := some exit },
      [.take reader.connection, .consult event decision])

inductive Reading where
  /-- It was told to end, and does only that. -/
  | quit
  /-- It handles a whole frame. -/
  | handle (outcome : Frame.Outcome) (rest : List UInt8)
  /-- It takes what arrived. -/
  | take (arrival : Arrival)

/-- The reader of a connection, with what it does next; nothing if it has ended, or if there is
neither a whole frame nor anything to take. -/
def reading? (around : Surroundings) (session : Session) (connection : ConnectionId) :
    Option (Reader × Reading) :=
  ((session.reader? connection).filter (·.exit.isNone)).bind fun reader =>
    if reader.isCancelled then some (reader, .quit)
    else
      match Frame.next? reader.buffer with
      | some (outcome, rest) => some (reader, .handle outcome rest)
      | none => (around.arrival connection).map fun arrival => (reader, .take arrival)

/-- Lets a reader do something.  Who waits for one that was told to end takes its stream to be
closed. -/
def read (around : Surroundings) (session : Session) (reader : Reader) :
    Reading → Session × List Effect
  | .quit => (session.setReader { reader with exit := some .closed }, [])
  | .handle outcome rest => session.readFrame around reader outcome rest
  | .take arrival => session.readArrival around reader arrival

def stepReader (around : Surroundings) (connection : ConnectionId) (session : Session) :
    Option (Session × List Effect) :=
  (session.reading? around connection).map fun (reader, reading) =>
    session.read around reader reading

end NplLifecycle.Session
