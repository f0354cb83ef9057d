/-!
# Log lines

What an operator is told.  A line for the user of a host without a window of its own goes to the
log as well and is marked.
-/

namespace NplLifecycle

inductive Severity where
  | info
  | warn
  | error
  deriving DecidableEq, Repr

structure LogLine where
  severity : Severity
  text : String
  /-- Is the line meant for the user? -/
  forUser : Bool
  deriving DecidableEq, Repr

namespace LogLine

def info (text : String) : LogLine := ⟨.info, text, false⟩

def warn (text : String) : LogLine := ⟨.warn, text, false⟩

def error (text : String) : LogLine := ⟨.error, text, false⟩

end LogLine

def Severity.label : Severity → String
  | .info => "INFO"
  | .warn => "WARN"
  | .error => "ERROR"

def LogLine.render (line : LogLine) : String :=
  line.severity.label ++ (if line.forUser then "[user] " else " ") ++ line.text

end NplLifecycle
