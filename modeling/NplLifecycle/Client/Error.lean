import NplLifecycle.Number.Decimal

/-!
# Failures of the client

What can go wrong between the client and its server.  Each failure has one text; a failure that
wraps another one keeps the text of the inner one beside it.
-/

namespace NplLifecycle

inductive ClientError where
  /-- The host has no root, so there is nothing to serve. -/
  | noWorkspace
  /-- No connection could be made. -/
  | connection (cause : String)
  /-- The server refused the handshake. -/
  | handshake (text : String)
  /-- The connection went away under a request. -/
  | connectionClosed
  /-- A request was not answered in time. -/
  | requestTimeout (method : String) (micros : Nat)
  /-- The server refused a request. -/
  | server (code : Int) (text : String)
  /-- The settings could not be read. -/
  | settings (cause : String)
  /-- Writing to the connection failed. -/
  | transport (cause : String)
  /-- A message had the wrong shape. -/
  | protocol (text : String)
  deriving DecidableEq, Repr

/-- A whole number and the decimals behind it, without zeros at the end. -/
def decimalText (whole fraction places : Nat) : String :=
  let digits := (toString fraction).toList
  let padded := List.replicate (places - digits.length) '0' ++ digits
  let kept := (padded.reverse.dropWhile (· == '0')).reverse
  toString whole ++ (if kept.isEmpty then "" else "." ++ String.ofList kept)

/-- A span of time in the greatest unit that makes it at least one. -/
def durationText (micros : Nat) : String :=
  if 1000000 ≤ micros then decimalText (micros / 1000000) (micros % 1000000) 6 ++ "s"
  else if 1000 ≤ micros then decimalText (micros / 1000) (micros % 1000) 3 ++ "ms"
  else if 0 < micros then toString micros ++ "µs"
  else "0ns"

namespace ClientError

def message : ClientError → String
  | .noWorkspace => "No workspace folder found"
  | .connection _ => "Failed to connect to the language server"
  | .handshake text => "Language server initialization failed: " ++ text
  | .connectionClosed => "Language server closed the connection"
  | .requestTimeout method micros =>
    "Request '" ++ method ++ "' timed out after " ++ durationText micros
  | .server code text =>
    "Language server error " ++ Number.integerText code ++ ": " ++ text
  | .settings _ => "Failed to read NPL settings"
  | .transport _ => "Transport I/O failed"
  | .protocol text => "Malformed message: " ++ text

def source? : ClientError → Option String
  | .connection cause | .settings cause | .transport cause => some cause
  | _ => none

end ClientError

end NplLifecycle
