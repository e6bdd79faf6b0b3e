import PickupLedger.Database.State
import PickupLedger.Store.Call

/-!
# The store in a database

The sixteen storage calls as statements over the tables.  References are resolved by
joins, so a record whose reference row is gone is shown without it, and a status is
known by the name its row has now.  A statement names its tables in a fixed order,
and the first one that is missing is the one that is reported.

A taken key is a duplicate where a pickup point or reception is added or a reception
moved; everywhere else, and for any other refusal, the database's own words are kept.
-/

namespace PickupLedger.Database

/-! ## Joins -/

/-- A pickup point with its city, if there is such a row. -/
def pointOf (rs : Records) (id : Uuid) (row : PointRow) : PickupPoint where
  id := id
  registered := row.registered
  cityId := row.cityId
  city := (rs.cities.get? row.cityId).map fun name => ⟨row.cityId, name⟩

/-- The status of a name in the records. -/
def statusKind (name : String) : Except StorageFailure StatusKind :=
  match StatusKind.ofName? name with
  | some kind => .ok kind
  | none => .error (.corrupt ("unknown reception status '" ++ name ++ "'"))

/-- A reception with its status, if there is such a row. -/
def receptionOf (rs : Records) (id : Uuid) (row : ReceptionRow) :
    Except StorageFailure Reception :=
  let bare : Reception := ⟨id, row.pickupPoint, row.opened, row.statusId, none⟩
  match rs.statuses.get? row.statusId with
  | none => .ok bare
  | some name => (statusKind name).map fun kind => { bare with status := some kind }

/-- A product with the name of its type, if there is such a row. -/
def productOf (rs : Records) (id : Uuid) (row : ProductRow) : Product :=
  ⟨id, row.added, row.typeId, rs.productTypes.get? row.typeId, row.reception⟩

/-! ## Queries -/

/-- A signed number of 64 bits with the same last bits. -/
def signed64 (n : Nat) : Int := Int.bmod n (1 <<< 64)

/-- Pickup points that had a reception between two instants, by the text of times. -/
def hadReception (rs : Records) (bounds : Instant × Instant) (id : Uuid) : Bool :=
  rs.receptions.rows.any fun r =>
    r.pickupPoint = id && storedLe bounds.1 r.opened && storedLe r.opened bounds.2

/-- All pickup points, the newest first. -/
def newestFirst (rs : Records) : List (Uuid × PointRow) :=
  rs.pickupPoints.entries.mergeSort fun a b =>
    (StoredKey.of b.2.registered b.1).le (.of a.2.registered a.1)

/-- The pickup points of a window, the newest first. -/
def inWindow (rs : Records) (window : DateWindow) : List (Uuid × PointRow) :=
  match window.bounds? with
  | some bounds => (newestFirst rs).filter fun e => hadReception rs bounds e.1
  | none => newestFirst rs

/-- A page of pickup points; an offset that is negative as a signed number is none. -/
def pointPage (rs : Records) (q : PointQuery) : List PickupPoint :=
  (((inWindow rs q.window).drop (signed64 q.offset).toNat).take q.limit).map
    fun e => pointOf rs e.1 e.2

/-- The tables that a page of pickup points is read from. -/
def pageTables (q : PointQuery) : List TableName :=
  .pickupPoints :: .cities :: (if q.window.bounds?.isSome then [.receptions] else [])

/-- The receptions of a test, the oldest first. -/
def receptionsWhere (rs : Records) (p : ReceptionRow → Bool) : List (Uuid × ReceptionRow) :=
  (rs.receptions.entries.filter fun e => p e.2).mergeSort fun a b =>
    (StoredKey.of a.2.opened a.1).le (.of b.2.opened b.1)

/-- The products of a test, the oldest first. -/
def productsWhere (rs : Records) (p : ProductRow → Bool) : List (Uuid × ProductRow) :=
  (rs.products.entries.filter fun e => p e.2).mergeSort fun a b =>
    (StoredKey.of a.2.added a.1).le (.of b.2.added b.1)

/-- The newest reception of a pickup point whose status has a name now. -/
def inStatus? (rs : Records) (kind : StatusKind) (pickupPoint : Uuid) :
    Option (Uuid × ReceptionRow) :=
  (receptionsWhere rs fun r =>
    r.pickupPoint = pickupPoint && rs.statuses.get? r.statusId = some kind.name).getLast?

/-- The tables of receptions with their statuses. -/
def receptionTables : List TableName := [.receptions, .statuses]

/-- The tables of products with their types. -/
def productTables : List TableName := [.products, .productTypes]

/-! ## Writing -/

/-- Another reception of a pickup point is in progress, and there may be only one. -/
def slotTaken (db : Database) (id pickupPoint : Uuid) : Bool :=
  db.schema.keepsOneInProgress && db.records.receptions.entries.any fun e =>
    e.1 ≠ id && e.2.pickupPoint = pickupPoint && e.2.statusId = Seed.inProgressId

/-- A refused statement: a taken key is a duplicate. -/
def writeFailure (what : String) (fault : SqlFault) : StorageFailure :=
  if fault.isTaken then .duplicate what else .database (.execution fault)

/-- A row of a pickup point added. -/
def insertPoint (db : Database) (id : Uuid) (row : PointRow) : Except SqlFault Database :=
  if db.records.pickupPoints.contains id then .error (.primaryKey "pickup_points.id")
  else if db.dangling .pickupPoints row.links then .error .foreignKey
  else
    .ok { db with records :=
      { db.records with pickupPoints := db.records.pickupPoints.put id row } }

/-- A row of a reception added. -/
def insertReception (db : Database) (id : Uuid) (row : ReceptionRow) : Except SqlFault Database :=
  if db.records.receptions.contains id then .error (.primaryKey "receptions.id")
  else if row.statusId = Seed.inProgressId && db.slotTaken id row.pickupPoint then
    .error (.uniqueKey "receptions.pickup_point_id")
  else if db.dangling .receptions row.links then .error .foreignKey
  else
    .ok { db with records := { db.records with receptions := db.records.receptions.put id row } }

/-- The row of a reception moved to another status, the only column that is written. -/
def updateReception (db : Database) (id : Uuid) (row : ReceptionRow) (target : RefId) :
    Except SqlFault Database :=
  if target = Seed.inProgressId && db.slotTaken id row.pickupPoint then
    .error (.uniqueKey "receptions.pickup_point_id")
  else if db.dangling .receptions [⟨"status_id", .number target⟩] then .error .foreignKey
  else
    .ok { db with records :=
      { db.records with receptions := db.records.receptions.put id { row with statusId := target } } }

/-- A row of a product added. -/
def insertProduct (db : Database) (id : Uuid) (row : ProductRow) : Except SqlFault Database :=
  if db.records.products.contains id then .error (.primaryKey "products.id")
  else if db.dangling .products row.links then .error .foreignKey
  else .ok { db with records := { db.records with products := db.records.products.put id row } }

/-! ## Calls that write -/

/-- Adds a pickup point. -/
def addPickupPoint (db : Database) (p : PickupPoint) :
    Except StorageFailure PickupPoint × Database :=
  match db.obstacle? .execution [.pickupPoints] 0 with
  | some e => (.error e, db)
  | none =>
    match db.insertPoint p.id ⟨p.registered, p.cityId⟩ with
    | .error fault => (.error (writeFailure ("pickup_points.id = " ++ p.id.text) fault), db)
    | .ok db => (.ok p, db)

/-- Adds a reception. -/
def addReception (db : Database) (r : Reception) : Except StorageFailure Reception × Database :=
  match db.obstacle? .execution [.receptions] 0 with
  | some e => (.error e, db)
  | none =>
    match db.insertReception r.id ⟨r.pickupPoint, r.opened, r.statusId⟩ with
    | .error fault =>
      let what := "in-progress reception for pickup point " ++ r.pickupPoint.text
      (.error (writeFailure what fault), db)
    | .ok db => (.ok r, db)

/-- A reception looked up with its status. -/
def receptionById (db : Database) (id : Uuid) : Except StorageFailure (Option Reception) :=
  match db.query receptionTables 1 (db.records.receptions.get? id) with
  | .error e => .error e
  | .ok none => .ok none
  | .ok (some row) => (receptionOf db.records id row).map some

/-- Moves a reception from one status to another, and looks it up again. -/
def moveReception (db : Database) (id : Uuid) (source target : RefId) :
    Except StorageFailure (Option Reception) × Database :=
  match db.obstacle? .execution [.receptions] 0 with
  | some e => (.error e, db)
  | none =>
    match db.records.receptions.get? id with
    | none => (.ok none, db)
    | some row =>
      if row.statusId = source then
        match db.updateReception id row target with
        | .error fault => (.error (writeFailure ("in-progress reception " ++ id.text) fault), db)
        | .ok db => (db.receptionById id, db)
      else (.ok none, db)

/-- Adds a product while the row of its reception has the number of `inProgress`. -/
def addProduct (db : Database) (p : Product) : Except StorageFailure (Option Product) × Database :=
  match db.obstacle? .execution [.products, .receptions] 0 with
  | some e => (.error e, db)
  | none =>
    match db.records.receptions.get? p.reception with
    | none => (.ok none, db)
    | some r =>
      if r.statusId = Seed.inProgressId then
        match db.insertProduct p.id ⟨p.added, p.typeId, p.reception⟩ with
        | .error fault => (.error (.database (.execution fault)), db)
        | .ok db => (.ok (some p), db)
      else (.ok none, db)

/-- Deletes a product. -/
def deleteProduct (db : Database) (id : Uuid) : Except StorageFailure Bool × Database :=
  match db.obstacle? .execution [.products] 0 with
  | some e => (.error e, db)
  | none =>
    (.ok (db.records.products.contains id),
      { db with records := { db.records with products := db.records.products.erase id } })

/-- The receptions of pickup points, the oldest first; no statement for none. -/
def receptionsAt (db : Database) (ids : List Uuid) : Except StorageFailure (List Reception) :=
  if ids.isEmpty then .ok []
  else
    match db.query receptionTables ids.length
        (receptionsWhere db.records fun r => ids.contains r.pickupPoint) with
    | .error e => .error e
    | .ok rows => rows.mapM fun e => receptionOf db.records e.1 e.2

/-- The products of receptions, the oldest first; no statement for none. -/
def productsOf (db : Database) (ids : List Uuid) : Except StorageFailure (List Product) :=
  if ids.isEmpty then .ok []
  else
    db.query productTables ids.length
      ((productsWhere db.records fun p => ids.contains p.reception).map
        fun e => productOf db.records e.1 e.2)

/-- **The answer to a call.** -/
def answer : (c : Call) → Database → Answer c × Database
  | .cityByName name, db =>
    (db.query [.cities] 1 ((byName? db.records.cities name).map fun e => ⟨e.1, e.2⟩), db)
  | .cityById id, db =>
    (db.query [.cities] 1 ((db.records.cities.get? id).map fun name => ⟨id, name⟩), db)
  | .addPickupPoint p, db => db.addPickupPoint p
  | .pickupPointById id, db =>
    (db.query [.pickupPoints, .cities] 1
      ((db.records.pickupPoints.get? id).map (pointOf db.records id)), db)
  | .pickupPointPage q, db => (db.query (pageTables q) 4 (pointPage db.records q), db)
  | .allPickupPoints, db =>
    (db.query [.pickupPoints, .cities] 0
      ((newestFirst db.records).map fun e => pointOf db.records e.1 e.2), db)
  | .statusOfKind kind, db =>
    (db.query [.statuses] 1
      ((byName? db.records.statuses kind.name).map fun e => ⟨e.1, kind⟩), db)
  | .addReception r, db => db.addReception r
  | .receptionInStatus kind pickupPoint, db =>
    (match db.query receptionTables 2 (inStatus? db.records kind pickupPoint) with
      | .error e => .error e
      | .ok none => .ok none
      | .ok (some e) => (receptionOf db.records e.1 e.2).map some, db)
  | .moveReception id source target, db => db.moveReception id source target
  | .receptionsAt ids, db => (db.receptionsAt ids, db)
  | .productTypeByName name, db =>
    (db.query [.productTypes] 1
      ((byName? db.records.productTypes name).map fun e => ⟨e.1, e.2⟩), db)
  | .addProduct p, db => db.addProduct p
  | .lastProduct reception, db =>
    (db.query productTables 1
      ((productsWhere db.records fun p => p.reception = reception).getLast?.map
        fun e => productOf db.records e.1 e.2), db)
  | .deleteProduct id, db => db.deleteProduct id
  | .productsOf ids, db => (db.productsOf ids, db)

instance : Storage Database := ⟨answer⟩

end PickupLedger.Database
