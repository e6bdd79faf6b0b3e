import PickupLedger.Service.Program

/-!
# Pickup points, receptions and products

The operations of the service.  A pickup point is registered under an identifier of
its caller; it takes goods in while it has a reception in progress, of which it has
at most one; products are added to that reception and taken back from its end.

`openReception` looks before it adds, and still may lose to another: the store
refuses the second reception, and both answers are the same failure.  In the same way
`closeReception` and `addProduct` are told by the store that the reception they found
is in progress no more.
-/

namespace PickupLedger.Service

/-! ## Pickup points -/

/-- **Registers a pickup point** in a city that is known, now unless a time is given. -/
def createPickupPoint (stamp : Stamp) (id : Uuid) (cityName : String)
    (registered : Option Instant) : Operation PickupPoint := do
  let found ← .call "create pickup point: find city" (.cityByName cityName)
  let city ← .require (.cityNotFound cityName) found
  let point := PickupPoint.inCity id (registered.getD stamp.now) city
  let created ← .insert "create pickup point: insert" (.duplicatePickupPoint id)
    (.addPickupPoint point)
  .count .pointsCreated
  return PickupPoint.withCity created city

/-- A pickup point by its identifier. -/
def getPickupPoint (id : Uuid) : Operation PickupPoint := do
  let found ← .call "get pickup point" (.pickupPointById id)
  .require (.notFound "PickupPoint" "id" id.text) found

/-- All pickup points, the newest first. -/
def listPickupPoints : Operation (List PickupPoint) :=
  .call "list pickup points" .allPickupPoints

/-! ## Receptions -/

/-- The row of a status. -/
def resolveStatus (step : String) (kind : StatusKind) : Operation Status := do
  let found ← .call step (.statusOfKind kind)
  .require (.notFound "ReceptionStatus" "name" kind.name) found

/-- The reception of a pickup point that is in progress. -/
def activeReception (step : String) (pickupPoint : Uuid) : Operation Reception := do
  let found ← .call step (.receptionInStatus .inProgress pickupPoint)
  .require (.noActiveReception pickupPoint) found

/-- **Opens a reception** at a pickup point that has none in progress. -/
def openReception (stamp : Stamp) (pickupPoint : Uuid) : Operation Reception := do
  let point ← .call "open reception: find pickup point" (.pickupPointById pickupPoint)
  let _ ← .require (.pickupPointNotFound pickupPoint) point
  let active ← .call "open reception: find active" (.receptionInStatus .inProgress pickupPoint)
  if Option.isSome active then .fail (.receptionAlreadyInProgress pickupPoint)
  let status ← resolveStatus "open reception: resolve status" .inProgress
  let created ← .insert "open reception: insert" (.receptionAlreadyInProgress pickupPoint)
    (.addReception ⟨stamp.fresh, pickupPoint, stamp.now, status.id, some status.kind⟩)
  .count .receptionsCreated
  return Reception.withStatus created status

/-- **Closes the reception** of a pickup point that is in progress. -/
def closeReception (pickupPoint : Uuid) : Operation Reception := do
  let active ← activeReception "close reception: find active" pickupPoint
  let status ← resolveStatus "close reception: resolve status" .closed
  let moved ← .call "close reception: update"
    (.moveReception active.id active.statusId status.id)
  let updated ← .require (.noActiveReception pickupPoint) moved
  .count .receptionsClosed
  return Reception.withStatus updated status

/-! ## Products -/

/-- **Adds a product** of a named type to the reception in progress. -/
def addProduct (stamp : Stamp) (pickupPoint : Uuid) (typeName : String) : Operation Product := do
  let reception ← activeReception "add product: find active reception" pickupPoint
  let found ← .call "add product: find product type" (.productTypeByName typeName)
  let type ← .require (.unknownProductType typeName) found
  let added ← .call "add product: insert"
    (.addProduct (.ofType stamp.fresh reception.id stamp.now type))
  let created ← .require (.noActiveReception pickupPoint) added
  .count .productsAdded
  return { (created : Product) with typeName := some type.name }

/-- **Takes back the product** that was added last to the reception in progress. -/
def removeLastProduct (pickupPoint : Uuid) : Operation Product := do
  let point ← .call "remove product: find pickup point" (.pickupPointById pickupPoint)
  let _ ← .require (.pickupPointNotFound pickupPoint) point
  let reception ← activeReception "remove product: find active reception" pickupPoint
  let found ← .call "remove product: find last product" (.lastProduct reception.id)
  let last ← .require (.noProductToRemove pickupPoint) found
  let deleted ← .call "remove product: delete" (.deleteProduct last.id)
  if deleted = false then .fail (.notFound "Product" "id" last.id.text)
  .count .productsRemoved
  return last

end PickupLedger.Service
