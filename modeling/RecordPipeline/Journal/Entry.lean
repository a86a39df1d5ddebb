import RecordPipeline.Value.Fault
set_option autoImplicit false

namespace RecordPipeline

inductive Severity where
  | debug
  | info
  | warning
  | error
  | critical
  deriving DecidableEq

namespace Severity

def name : Severity → String
  | .debug => "DEBUG"
  | .info => "INFO"
  | .warning => "WARNING"
  | .error => "ERROR"
  | .critical => "CRITICAL"

def rank : Severity → Nat
  | .debug => 10
  | .info => 20
  | .warning => 30
  | .error => 40
  | .critical => 50

end Severity

structure Entry where
  logger : String
  severity : Severity
  /-- Nothing when the message cannot be written out. -/
  message : Option String
  deriving DecidableEq

namespace Entry

def of (logger : String) (severity : Severity) (message : String) : Entry :=
  ⟨logger, severity, some message⟩

def attempt (logger : String) (severity : Severity) (message : Except ValueFault String) : Entry :=
  ⟨logger, severity, message.toOption⟩

end Entry

def loggerName (name : String) : String := if name = "" then "root" else name

end RecordPipeline
