/-!
# Log lines

A log line has a level, a message and further fields, each with a name and a number or a text.
-/

namespace TimedBatch

/-- How much a log line matters. -/
inductive LogLevel where
  | trace
  | debug
  | warn
  | error
  deriving DecidableEq

def LogLevel.name : LogLevel → String
  | trace => "TRACE"
  | debug => "DEBUG"
  | warn => "WARN"
  | error => "ERROR"

/-- The value of a field of a log line. -/
inductive LogValue where
  | number (value : Nat)
  | text (content : String)
  deriving DecidableEq

structure LogLine where
  level : LogLevel
  message : String
  fields : List (String × LogValue) := []
  deriving DecidableEq

namespace LogLine

def workerStarted (worker : String) : LogLine :=
  ⟨.debug, "timer worker started", [("worker", .text worker)]⟩

def workerShuttingDown (worker : String) : LogLine :=
  ⟨.debug, "timer worker shutting down", [("worker", .text worker)]⟩

def taskFailed (worker : String) : LogLine :=
  ⟨.warn, "timer task panicked; worker keeps running", [("worker", .text worker)]⟩

end LogLine

end TimedBatch
