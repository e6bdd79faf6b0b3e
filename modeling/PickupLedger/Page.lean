import PickupLedger.Time.Instant

/-!
# Pages and date windows

A list is shown a page at a time (`Page`), and may be narrowed to a window of time
(`DateWindow`).  A window narrows only when both of its ends are given.
-/

namespace PickupLedger

/-- A page, or a window, that cannot be asked for. -/
inductive ListFault where
  | pageTooSmall
  | limitOutOfRange
  | windowReversed
  deriving DecidableEq, Repr

/-- **One page of a list**: its number from 1 on, and how many rows it has. -/
structure Page where
  number : UInt32
  limit : UInt32
  deriving DecidableEq, Repr

namespace Page

/-- The most rows a page may have. -/
def maxLimit : UInt32 := 30

/-- The page shown when none is asked for. -/
def first : Page := ⟨1, 10⟩

/-- **A page that can be shown** has a number of at least 1 and a limit from 1 to
`maxLimit`; of two faults the number's is told. -/
def check (p : Page) : Except ListFault Unit :=
  if p.number < 1 then .error .pageTooSmall
  else if p.limit < 1 ∨ maxLimit < p.limit then .error .limitOutOfRange
  else .ok ()

/-- The number of rows before the page; pages 0 and 1 have none. -/
def offset (p : Page) : Nat := (p.number.toNat - 1) * p.limit.toNat

end Page

/-- **A window of time** with either end left open. -/
structure DateWindow where
  start : Option Instant
  stop : Option Instant
  deriving DecidableEq, Repr

namespace DateWindow

/-- No window. -/
def unbounded : DateWindow := ⟨none, none⟩

/-- Both ends, if both are given. -/
def bounds? (w : DateWindow) : Option (Instant × Instant) :=
  match w.start, w.stop with
  | some start, some stop => some (start, stop)
  | _, _ => none

/-- **A window that can be asked for** does not start after its end. -/
def check (w : DateWindow) : Except ListFault Unit :=
  match w.bounds? with
  | some (start, stop) => if start.le stop then .ok () else .error .windowReversed
  | none => .ok ()

end DateWindow
end PickupLedger
