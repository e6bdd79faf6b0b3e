import PickupLedger.Store.Call
import PickupLedger.Store.Table

/-!
# The store in memory

`InMemory` keeps every kind of record in a table.  Records are kept without what
their references stand for; answers look that up.

The table `active` names the reception in progress of each pickup point, and with it
the store decides whether a reception may start, end or take a product.  The tables
are only as right as the calls: adding a reception under an identifier that is taken
replaces the record, whatever pickup point it belonged to.
-/

namespace PickupLedger

/-- **A store in memory.** -/
structure InMemory where
  cities : Table RefId City
  productTypes : Table RefId ProductType
  statuses : List Status
  pickupPoints : Table Uuid PickupPoint
  receptions : Table Uuid Reception
  /-- The reception in progress of each pickup point that has one. -/
  active : Table Uuid Uuid
  products : Table Uuid Product
  /-- The number of calls for lists so far. -/
  listQueries : Nat

namespace InMemory

/-- **A new store**: seeded reference data and no records. -/
def new : InMemory where
  cities := .ofRows City.id Seed.cities
  productTypes := .ofRows ProductType.id Seed.productTypes
  statuses := Seed.statuses
  pickupPoints := .empty
  receptions := .empty
  active := .empty
  products := .empty
  listQueries := 0

instance : Inhabited InMemory := ⟨new⟩

/-! ## Resolving references -/

/-- The status behind a number. -/
def kindOf (s : InMemory) (id : RefId) : Except StorageFailure StatusKind :=
  match s.statuses.find? fun status => status.id = id with
  | some status => .ok status.kind
  | none => .error (.corrupt ("unknown reception status " ++ id.text))

/-- The row of a status. -/
def statusOf? (s : InMemory) (kind : StatusKind) : Option Status :=
  s.statuses.find? fun status => status.kind = kind

/-- The pickup point with its city. -/
def resolvePoint (s : InMemory) (p : PickupPoint) : PickupPoint :=
  { p with city := s.cities.get? p.cityId }

/-- The reception with its status. -/
def resolveReception (s : InMemory) (r : Reception) : Except StorageFailure Reception :=
  (s.kindOf r.statusId).map fun kind => { r with status := some kind }

/-- The product with the name of its type. -/
def resolveProduct (s : InMemory) (p : Product) : Product :=
  { p with typeName := (s.productTypes.get? p.typeId).map ProductType.name }

/-! ## Queries -/

/-- One more call for a list. -/
def countList (s : InMemory) : InMemory := { s with listQueries := s.listQueries + 1 }

/-- All pickup points, the newest first. -/
def newestFirst (s : InMemory) : List PickupPoint :=
  s.pickupPoints.rows.mergeSort fun a b => b.recency.le a.recency

/-- The pickup point had a reception between two instants. -/
def hadReception (s : InMemory) (bounds : Instant × Instant) (p : PickupPoint) : Bool :=
  s.receptions.rows.any fun r =>
    r.pickupPoint = p.id && bounds.1.le r.opened && r.opened.le bounds.2

/-- The pickup points of a window, the newest first. -/
def inWindow (s : InMemory) (window : DateWindow) : List PickupPoint :=
  match window.bounds? with
  | some bounds => s.newestFirst.filter (s.hadReception bounds)
  | none => s.newestFirst

/-- A page of pickup points. -/
def pointPage (s : InMemory) (q : PointQuery) : List PickupPoint :=
  (((s.inWindow q.window).drop q.offset).take q.limit).map s.resolvePoint

/-- The reception of a pickup point that is in a status: the active one, or of the
closed ones the last to be opened. -/
def inStatus? (s : InMemory) (kind : StatusKind) (pickupPoint : Uuid) : Option Reception :=
  match s.statusOf? kind with
  | none => none
  | some status =>
    match kind with
    | .inProgress => (s.active.get? pickupPoint).bind s.receptions.get?
    | .closed =>
      greatest? Reception.opened Instant.le
        (s.receptions.rows.filter fun r => r.pickupPoint = pickupPoint && r.statusId = status.id)

/-- The receptions of pickup points, the oldest first. -/
def receptionsAt (s : InMemory) (ids : List Uuid) : List Reception :=
  (s.receptions.rows.filter fun r => ids.contains r.pickupPoint).mergeSort
    fun a b => a.recency.le b.recency

/-- The newest product of a reception. -/
def lastProduct? (s : InMemory) (reception : Uuid) : Option Product :=
  Product.newest? (s.products.rows.filter fun p => p.reception = reception)

/-- The products of receptions, the oldest first. -/
def productsOf (s : InMemory) (ids : List Uuid) : List Product :=
  (s.products.rows.filter fun p => ids.contains p.reception).mergeSort
    fun a b => a.recency.le b.recency

/-! ## Writing -/

/-- The refusal of a second reception in progress. -/
def occupied (pickupPoint : Uuid) : StorageFailure :=
  .duplicate ("in-progress reception for pickup point " ++ pickupPoint.text)

/-- Adds a pickup point. -/
def addPickupPoint (s : InMemory) (p : PickupPoint) :
    Except StorageFailure PickupPoint × InMemory :=
  if s.pickupPoints.contains p.id then
    (.error (.duplicate ("pickup_points.id = " ++ p.id.text)), s)
  else (.ok p, { s with pickupPoints := s.pickupPoints.put p.id { p with city := none } })

/-- Adds a reception; one in progress takes the place of its pickup point in `active`. -/
def addReception (s : InMemory) (r : Reception) : Except StorageFailure Reception × InMemory :=
  let stored := s.receptions.put r.id { r with status := none }
  match s.kindOf r.statusId with
  | .error e => (.error e, s)
  | .ok .closed => (.ok r, { s with receptions := stored })
  | .ok .inProgress =>
    if s.active.contains r.pickupPoint then (.error (occupied r.pickupPoint), s)
    else (.ok r, { s with active := s.active.put r.pickupPoint r.id, receptions := stored })

/-- The table `active` after a reception has changed its status; a failure if its
place is taken, none if it is not the one that holds it. -/
def shiftActive (s : InMemory) (r : Reception) (source target : StatusKind) :
    Except StorageFailure (Option (Table Uuid Uuid)) :=
  match source, target with
  | .inProgress, .closed =>
    if s.active.get? r.pickupPoint = some r.id then .ok (some (s.active.erase r.pickupPoint))
    else .ok none
  | .closed, .inProgress =>
    if s.active.contains r.pickupPoint then .error (occupied r.pickupPoint)
    else .ok (some (s.active.put r.pickupPoint r.id))
  | _, _ => .ok (some s.active)

/-- Moves a reception from one status to another. -/
def moveReception (s : InMemory) (id : Uuid) (source target : RefId) :
    Except StorageFailure (Option Reception) × InMemory :=
  match s.kindOf source, s.kindOf target with
  | .error e, _ => (.error e, s)
  | _, .error e => (.error e, s)
  | .ok sourceKind, .ok targetKind =>
    match s.receptions.get? id with
    | none => (.ok none, s)
    | some r =>
      if r.statusId = source then
        match s.shiftActive r sourceKind targetKind with
        | .error e => (.error e, s)
        | .ok none => (.ok none, s)
        | .ok (some active) =>
          let moved := { r with statusId := target }
          (.ok (some moved), { s with active, receptions := s.receptions.put id moved })
      else (.ok none, s)

/-- Adds a product to the active reception of its pickup point, and to no other. -/
def addProduct (s : InMemory) (p : Product) : Except StorageFailure (Option Product) × InMemory :=
  match s.receptions.get? p.reception with
  | none => (.ok none, s)
  | some r =>
    if s.active.get? r.pickupPoint = some p.reception then
      (.ok (some p), { s with products := s.products.put p.id { p with typeName := none } })
    else (.ok none, s)

/-- **The answer to a call.** -/
def answer : (c : Call) → InMemory → Answer c × InMemory
  | .cityByName name, s => (.ok (s.cities.rows.find? fun c => c.name = name), s)
  | .cityById id, s => (.ok (s.cities.get? id), s)
  | .addPickupPoint p, s => s.addPickupPoint p
  | .pickupPointById id, s => (.ok ((s.pickupPoints.get? id).map s.resolvePoint), s)
  | .pickupPointPage q, s => (.ok (s.pointPage q), s.countList)
  | .allPickupPoints, s => (.ok (s.newestFirst.map s.resolvePoint), s.countList)
  | .statusOfKind kind, s => (.ok (s.statusOf? kind), s)
  | .addReception r, s => s.addReception r
  | .receptionInStatus kind pickupPoint, s =>
    (match s.inStatus? kind pickupPoint with
      | some r => (s.resolveReception r).map some
      | none => .ok none, s)
  | .moveReception id source target, s => s.moveReception id source target
  | .receptionsAt ids, s => ((s.receptionsAt ids).mapM s.resolveReception, s.countList)
  | .productTypeByName name, s => (.ok (s.productTypes.rows.find? fun t => t.name = name), s)
  | .addProduct p, s => s.addProduct p
  | .lastProduct reception, s => (.ok ((s.lastProduct? reception).map s.resolveProduct), s)
  | .deleteProduct id, s => (.ok (s.products.contains id), { s with products := s.products.erase id })
  | .productsOf ids, s => (.ok ((s.productsOf ids).map s.resolveProduct), s.countList)

instance : Storage InMemory := ⟨answer⟩

end InMemory
end PickupLedger
