/-!
# The shutdown signal

A signal is a flag and a channel.  Triggering it sets the flag and, if that was not set
before, sends a message; waiting for it subscribes to the channel, looks at the flag,
and only if that is not set receives a message.  Each of these is an atomic step
(`Trigger.step`, `Wait.step`), and steps of any number of triggers and waits may come in
any order.  A wait gets every message that was sent after it has subscribed; so whoever
has looked too early for the flag has subscribed early enough for the message.
-/

namespace PickupLedger

/-- **A shutdown signal.** -/
structure Signal where
  triggered : Bool
  /-- The number of messages sent so far. -/
  sent : Nat
  deriving DecidableEq, Repr

/-- A signal that has not been triggered. -/
def Signal.new : Signal := ⟨false, 0⟩

/-- **How far a trigger has got.** -/
inductive Trigger where
  | begun
  /-- The flag is set; `first` says that this trigger has set it. -/
  | swapped (first : Bool)
  | returned
  deriving DecidableEq, Repr

/-- One step of a trigger, and the signal after it. -/
def Trigger.step (s : Signal) : Trigger → Trigger × Signal
  | .begun => (.swapped (!s.triggered), { s with triggered := true })
  | .swapped first => (.returned, if first then { s with sent := s.sent + 1 } else s)
  | .returned => (.returned, s)

/-- **How far a wait has got.** -/
inductive Wait where
  | begun
  /-- It gets every message after so many. -/
  | subscribed (since : Nat)
  | receiving (since : Nat)
  | returned
  deriving DecidableEq, Repr

namespace Wait

/-- One step of a wait; a wait with no message to receive stays where it is. -/
def step (s : Signal) : Wait → Wait
  | .begun => .subscribed s.sent
  | .subscribed since => if s.triggered then .returned else .receiving since
  | .receiving since => if since < s.sent then .returned else .receiving since
  | .returned => .returned

/-- As many steps as a wait can take while nothing else happens. -/
def settle (s : Signal) (w : Wait) : Wait := ((w.step s).step s).step s

/-- The wait is over. -/
def hasReturned (w : Wait) : Bool := w == .returned

end Wait

namespace Signal

/-- The signal after a whole trigger. -/
def trigger (s : Signal) : Signal :=
  let (t, s) := Trigger.begun.step s
  (t.step s).2

/-- A wait that begins now returns while nothing else happens. -/
def returnsAtOnce (s : Signal) : Bool := (Wait.begun.settle s).hasReturned

theorem returnsAtOnce_eq (s : Signal) : s.returnsAtOnce = s.triggered := by
  cases h : s.triggered <;> simp [returnsAtOnce, Wait.settle, Wait.step, h, Wait.hasReturned]

theorem triggered_trigger (s : Signal) : s.trigger.triggered = true := by
  cases h : s.triggered <;> simp [trigger, Trigger.step, h]

end Signal
end PickupLedger
