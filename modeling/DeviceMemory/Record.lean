/-!
# Records

What the library has to say about its own work, it says in records: a severity and
a message. Where they go is the business of the program around it.
-/

namespace DeviceMemory

/-- How serious a record is. -/
inductive Severity
  /-- Something failed. -/
  | error
  /-- Something is wrong but was worked around. -/
  | warn
  /-- Something worth knowing happened. -/
  | info
  /-- A step that helps in finding errors. -/
  | debug
  /-- A step in every detail. -/
  | trace
  deriving DecidableEq, Repr

/-- The name of a severity. -/
def Severity.name : Severity → String
  | error => "ERROR"
  | warn => "WARN"
  | info => "INFO"
  | debug => "DEBUG"
  | trace => "TRACE"

/-- A message with its severity. -/
structure Record where
  /-- How serious it is. -/
  severity : Severity
  /-- What there is to say. -/
  message : String
  deriving DecidableEq, Repr

/-- A record on one line. -/
def Record.text (r : Record) : String := r.severity.name ++ " " ++ r.message

end DeviceMemory
