import PickupLedger.PickupPoint
import PickupLedger.Reception
import PickupLedger.Product
import PickupLedger.Page
import PickupLedger.Failure

/-!
# Storage calls

A store answers sixteen kinds of calls (`Call`); each is one atomic step.  The kind
of a call (`CallName`) fixes the type of its reply, so that a store is one function
from calls to answers (`Storage`).
-/

namespace PickupLedger

/-- The kinds of calls, in the order of the records they are about. -/
inductive CallName where
  | cityByName
  | cityById
  | addPickupPoint
  | pickupPointById
  | pickupPointPage
  | allPickupPoints
  | statusOfKind
  | addReception
  | receptionInStatus
  | moveReception
  | receptionsAt
  | productTypeByName
  | addProduct
  | lastProduct
  | deleteProduct
  | productsOf
  deriving DecidableEq, Repr

/-- A page of pickup points, with the window in which they had a reception. -/
structure PointQuery where
  page : Page
  window : DateWindow
  deriving DecidableEq, Repr

namespace PointQuery

/-- The number of pickup points before the page. -/
def offset (q : PointQuery) : Nat := q.page.offset

/-- The most pickup points on the page. -/
def limit (q : PointQuery) : Nat := q.page.limit.toNat

end PointQuery

/-- **What a store replies** to a kind of call, unless it fails. -/
abbrev CallName.Reply : CallName → Type
  | .cityByName | .cityById => Option City
  | .addPickupPoint => PickupPoint
  | .pickupPointById => Option PickupPoint
  | .pickupPointPage | .allPickupPoints => List PickupPoint
  | .statusOfKind => Option Status
  | .addReception => Reception
  | .receptionInStatus | .moveReception => Option Reception
  | .receptionsAt => List Reception
  | .productTypeByName => Option ProductType
  | .addProduct | .lastProduct => Option Product
  | .deleteProduct => Bool
  | .productsOf => List Product

/-- **A storage call.** -/
inductive Call where
  | cityByName (name : String)
  | cityById (id : RefId)
  /-- Adds a pickup point under an identifier that must be free. -/
  | addPickupPoint (point : PickupPoint)
  | pickupPointById (id : Uuid)
  /-- A page of pickup points, the newest first. -/
  | pickupPointPage (query : PointQuery)
  /-- All pickup points, the newest first. -/
  | allPickupPoints
  | statusOfKind (kind : StatusKind)
  /-- Adds a reception; a pickup point may have one in progress. -/
  | addReception (reception : Reception)
  /-- The reception of a pickup point that is in a status. -/
  | receptionInStatus (kind : StatusKind) (pickupPoint : Uuid)
  /-- Moves a reception from one status to another; no reply if it is not in the first. -/
  | moveReception (id : Uuid) (source target : RefId)
  /-- The receptions of pickup points, the oldest first. -/
  | receptionsAt (pickupPoints : List Uuid)
  | productTypeByName (name : String)
  /-- Adds a product, but only to a reception in progress. -/
  | addProduct (product : Product)
  /-- The newest product of a reception. -/
  | lastProduct (reception : Uuid)
  /-- Deletes a product; the reply says whether there was one. -/
  | deleteProduct (id : Uuid)
  /-- The products of receptions, the oldest first. -/
  | productsOf (receptions : List Uuid)
  deriving DecidableEq, Repr

namespace Call

/-- The kind of a call. -/
abbrev name : Call → CallName
  | .cityByName _ => .cityByName
  | .cityById _ => .cityById
  | .addPickupPoint _ => .addPickupPoint
  | .pickupPointById _ => .pickupPointById
  | .pickupPointPage _ => .pickupPointPage
  | .allPickupPoints => .allPickupPoints
  | .statusOfKind _ => .statusOfKind
  | .addReception _ => .addReception
  | .receptionInStatus .. => .receptionInStatus
  | .moveReception .. => .moveReception
  | .receptionsAt _ => .receptionsAt
  | .productTypeByName _ => .productTypeByName
  | .addProduct _ => .addProduct
  | .lastProduct _ => .lastProduct
  | .deleteProduct _ => .deleteProduct
  | .productsOf _ => .productsOf

/-- What a store replies to a call, unless it fails. -/
abbrev Reply (c : Call) : Type := c.name.Reply

/-- A call that may change records. -/
def isWrite : Call → Bool
  | .addPickupPoint _ | .addReception _ | .moveReception .. | .addProduct _ | .deleteProduct _ =>
    true
  | _ => false

end Call

/-- A reply, or the failure of the store. -/
abbrev Answer (c : Call) : Type := Except StorageFailure c.Reply

/-- **A store** with states `σ`: each call is answered in one step. -/
class Storage (σ : Type) where
  answer : (c : Call) → σ → Answer c × σ

end PickupLedger
