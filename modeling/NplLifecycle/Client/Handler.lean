import NplLifecycle.Log
import NplLifecycle.Frame.Header
import NplLifecycle.Message.Decode

/-!
# Faults and losses of a connection

Whatever goes wrong on a connection, and every loss of one, is put before an error handler, and
the client does as it decides.  After a fault to continue means to keep the session; after a loss
it means to reconnect.
-/

namespace NplLifecycle

inductive ReadFault where
  | frame (fault : Frame.Fault)
  | message (error : DecodeError)
  | stream (cause : String)
  deriving DecidableEq, Repr

def ReadFault.chain : ReadFault → List String
  | .frame fault => [fault.message]
  | .message error => [error.message]
  | .stream cause => ["Error reading from language server", cause]

inductive ConnectionEvent where
  /-- Something could not be read.  `body` is the text of the message, if there was one, and
  `count` numbers the faults of the connection from one. -/
  | fault (chain : List String) (body : Option String) (count : Nat)
  /-- The other side went away. -/
  | closed
  deriving DecidableEq, Repr

inductive Decision where
  | proceed
  | abort
  deriving DecidableEq, Repr

inductive ErrorHandler where
  /-- Keeps sessions through all faults and never reconnects. -/
  | standard
  /-- Decides as planned: always the same about faults, and about losses in turn, the last
  decision again and again; without any plan it gives up. -/
  | planned (onFault : Decision) (onLoss : List Decision)
  deriving DecidableEq, Repr

namespace ErrorHandler

def decide : ErrorHandler → ConnectionEvent → Decision
  | .standard, .fault .. => .proceed
  | .standard, .closed => .abort
  | .planned onFault _, .fault .. => onFault
  | .planned _ onLoss, .closed => onLoss.headD .abort

def next : ErrorHandler → ConnectionEvent → ErrorHandler
  | .planned onFault (_ :: later :: more), .closed => .planned onFault (later :: more)
  | handler, _ => handler

def log : ErrorHandler → ConnectionEvent → List LogLine
  | .standard, .fault chain body count =>
    [.error ("Language client error #" ++ toString count ++ ": " ++
      body.getD "<no message>" ++ ": " ++ ": ".intercalate chain)]
  | .standard, .closed => [.info "Language client connection closed."]
  | .planned .., _ => []

end ErrorHandler

end NplLifecycle
