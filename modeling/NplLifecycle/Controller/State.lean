/-!
# Lifecycle states

Where the controller is in its cycle of starting and stopping.
-/

namespace NplLifecycle

inductive LifecycleState where
  /-- No client exists. -/
  | idle
  /-- A client is being built and connected. -/
  | starting
  /-- The client has finished its handshake. -/
  | running
  /-- The client and the server are being torn down. -/
  | stopping
  deriving DecidableEq, Repr, Inhabited

namespace LifecycleState

def toByte : LifecycleState → UInt8
  | .idle => 0
  | .starting => 1
  | .running => 2
  | .stopping => 3

/-- The state that a byte stands for; a byte that stands for none is idle. -/
def ofByte (b : UInt8) : LifecycleState :=
  if b = 1 then .starting else if b = 2 then .running else if b = 3 then .stopping else .idle

def name : LifecycleState → String
  | .idle => "idle"
  | .starting => "starting"
  | .running => "running"
  | .stopping => "stopping"

/-- A state survives being stored as a byte. -/
theorem ofByte_toByte (state : LifecycleState) : ofByte state.toByte = state := by
  cases state <;> rfl

end LifecycleState

end NplLifecycle
