import PickupLedger.Shutdown.Signal

/-!
# Shutting down in time

A coordinator has a signal and a time limit for what is to be cleaned up after it.  A
cleanup that takes no longer than the limit is waited for; any other is given up when
the limit is reached.
-/

namespace PickupLedger

/-- **A coordinator of a shutdown.** -/
structure Coordinator where
  signal : Signal
  /-- The time limit in seconds. -/
  timeout : Nat
  deriving DecidableEq, Repr

namespace Coordinator

/-- A coordinator with a time limit in seconds. -/
def new (timeout : Nat) : Coordinator := ⟨.new, timeout⟩

/-- The usual time limit in seconds. -/
def usualTimeout : Nat := 30

/-- **A cleanup that takes so many milliseconds**, or never ends, is waited for. -/
def finishes (c : Coordinator) : Option Nat → Bool
  | some millis => millis ≤ c.timeout * 1000
  | none => false

end Coordinator
end PickupLedger
