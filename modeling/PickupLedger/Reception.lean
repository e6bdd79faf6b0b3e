import PickupLedger.Recency
import PickupLedger.Reference

/-!
# Receptions

A reception is one session in which a pickup point takes goods in.  It starts in
progress and ends closed.
-/

namespace PickupLedger

/-- **A reception.** -/
structure Reception where
  id : Uuid
  pickupPoint : Uuid
  opened : Instant
  statusId : RefId
  /-- The status behind `statusId`, once it has been resolved. -/
  status : Option StatusKind
  deriving DecidableEq, Repr

namespace Reception

/-- The reception under a status. -/
def withStatus (r : Reception) (status : Status) : Reception :=
  { r with statusId := status.id, status := some status.kind }

/-- The status has been resolved and is `inProgress`. -/
def isInProgress (r : Reception) : Bool := r.status == some .inProgress

/-- The order key of a reception: when it was opened. -/
def recency (r : Reception) : Recency := ⟨r.opened, r.id⟩

end Reception
end PickupLedger
