/-!
# The log

What a service tells of its start and its end, line by line.
-/

namespace PickupLedger

/-- How much a line of the log matters. -/
inductive LogLevel where
  | error
  | warn
  | info
  deriving DecidableEq, Repr

/-- The name of a level. -/
def LogLevel.name : LogLevel → String
  | .error => "ERROR"
  | .warn => "WARN"
  | .info => "INFO"

/-- **A line of the log.** -/
structure LogLine where
  level : LogLevel
  message : String
  deriving DecidableEq, Repr

namespace LogLine

/-- A line that tells something. -/
def info (message : String) : LogLine := ⟨.info, message⟩

/-- A line that warns of something. -/
def warn (message : String) : LogLine := ⟨.warn, message⟩

/-- A line that tells a failure. -/
def error (message : String) : LogLine := ⟨.error, message⟩

end LogLine
end PickupLedger
