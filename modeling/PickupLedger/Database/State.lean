import PickupLedger.Database.Schema
import PickupLedger.Failure
import PickupLedger.Reference
import PickupLedger.Store.Table
import PickupLedger.Recency
import PickupLedger.Time.Written

/-!
# The state of the database

A `Database` is a schema and the rows of its tables.  A statement that changes rows
keeps every key unique, and while foreign keys are on, every reference whole: a row
that is deleted takes the rows with it that belong to it, and may not be deleted
while other rows point at it.  Which columns are references, and to what, is told by
the foreign keys of the schema (`Database.dangling`, `Database.pointing`).

Times are held as text and compared as text (`StoredOrder`).
-/

namespace PickupLedger.Database

/-- A pickup point, without its identifier. -/
structure PointRow where
  registered : Instant
  cityId : RefId
  deriving DecidableEq, Repr

/-- A reception, without its identifier. -/
structure ReceptionRow where
  pickupPoint : Uuid
  opened : Instant
  statusId : RefId
  deriving DecidableEq, Repr

/-- A product, without its identifier. -/
structure ProductRow where
  added : Instant
  typeId : RefId
  reception : Uuid
  deriving DecidableEq, Repr

/-- **The rows of all tables**, by their keys. -/
structure Records where
  cities : Table RefId String
  pickupPoints : Table Uuid PointRow
  statuses : Table RefId String
  receptions : Table Uuid ReceptionRow
  productTypes : Table RefId String
  products : Table Uuid ProductRow

/-- Tables without rows. -/
def Records.empty : Records := ⟨.empty, .empty, .empty, .empty, .empty, .empty⟩

/-! ## Rows and what they link to -/

/-- **The key of a row**: a number in reference data, an identifier in a table of records. -/
inductive Key where
  | number (id : RefId)
  | uuid (id : Uuid)
  deriving DecidableEq, Repr

/-- A row, told by its table and its key. -/
structure RowKey where
  table : TableName
  key : Key
  deriving DecidableEq, Repr

/-- A column whose value is a key. -/
structure Link where
  column : String
  key : Key
  deriving DecidableEq, Repr

/-- The links of a pickup point. -/
def PointRow.links (row : PointRow) : List Link := [⟨"city_id", .number row.cityId⟩]

/-- The links of a reception. -/
def ReceptionRow.links (row : ReceptionRow) : List Link :=
  [⟨"pickup_point_id", .uuid row.pickupPoint⟩, ⟨"status_id", .number row.statusId⟩]

/-- The links of a product. -/
def ProductRow.links (row : ProductRow) : List Link :=
  [⟨"type_id", .number row.typeId⟩, ⟨"reception_id", .uuid row.reception⟩]

namespace Records

/-- The keys of a table's rows, with the links of these. -/
def linked (rs : Records) : TableName → List (Key × List Link)
  | .cities => rs.cities.entries.map fun e => (.number e.1, [])
  | .pickupPoints => rs.pickupPoints.entries.map fun e => (.uuid e.1, e.2.links)
  | .statuses => rs.statuses.entries.map fun e => (.number e.1, [])
  | .receptions => rs.receptions.entries.map fun e => (.uuid e.1, e.2.links)
  | .productTypes => rs.productTypes.entries.map fun e => (.number e.1, [])
  | .products => rs.products.entries.map fun e => (.uuid e.1, e.2.links)

/-- All rows of a table. -/
def keysOf (rs : Records) (t : TableName) : List RowKey := (rs.linked t).map fun row => ⟨t, row.1⟩

/-- A table has a row under a key. -/
def holds (rs : Records) : TableName → Key → Bool
  | .cities, .number id => rs.cities.contains id
  | .pickupPoints, .uuid id => rs.pickupPoints.contains id
  | .statuses, .number id => rs.statuses.contains id
  | .receptions, .uuid id => rs.receptions.contains id
  | .productTypes, .number id => rs.productTypes.contains id
  | .products, .uuid id => rs.products.contains id
  | _, _ => false

/-- The records without some rows. -/
def without (rs : Records) (gone : List RowKey) : Records where
  cities := rs.cities.keep fun id _ => !gone.contains ⟨.cities, .number id⟩
  pickupPoints := rs.pickupPoints.keep fun id _ => !gone.contains ⟨.pickupPoints, .uuid id⟩
  statuses := rs.statuses.keep fun id _ => !gone.contains ⟨.statuses, .number id⟩
  receptions := rs.receptions.keep fun id _ => !gone.contains ⟨.receptions, .uuid id⟩
  productTypes := rs.productTypes.keep fun id _ => !gone.contains ⟨.productTypes, .number id⟩
  products := rs.products.keep fun id _ => !gone.contains ⟨.products, .uuid id⟩

/-- The records without the rows of a table, whatever points at them. -/
def clear (rs : Records) (t : TableName) : Records := rs.without (rs.keysOf t)

/-- Some pickup point has two receptions in progress. -/
def crowded (rs : Records) : Bool :=
  rs.receptions.entries.any fun e => rs.receptions.entries.any fun e' =>
    e.1 ≠ e'.1 && e.2.pickupPoint = e'.2.pickupPoint &&
      e.2.statusId = Seed.inProgressId && e'.2.statusId = Seed.inProgressId

end Records

/-! ## The order of stored times -/

/-- A record's place in the order of stored times. -/
structure StoredKey where
  time : List Char
  id : Uuid

/-- The key of a record with a time and an identifier. -/
def StoredKey.of (time : Instant) (id : Uuid) : StoredKey := ⟨time.stored, id⟩

/-- **The order of records by the text of their times**, then by their identifiers. -/
def StoredKey.le (a b : StoredKey) : Bool :=
  if a.time = b.time then a.id.le b.id else decide (a.time < b.time)

/-- The text of one time does not come after that of another. -/
def storedLe (a b : Instant) : Bool := !decide (b.stored < a.stored)

end PickupLedger.Database

namespace PickupLedger
open Database

/-- **A database.** -/
structure Database where
  /-- Statements can be run. -/
  connected : Bool
  /-- References are kept whole. -/
  foreignKeys : Bool
  schema : Schema
  records : Records

namespace Database

/-- A database without tables. -/
def empty : Database := ⟨true, true, .empty, .empty⟩

instance : Inhabited Database := ⟨empty⟩

/-- The most parameters a statement may have. -/
def maxParameters : Nat := 32766

/-- What keeps a statement over some tables, told as `refused`, from running: the
connection, the number of its parameters, the first table that is missing. -/
def obstacle? (db : Database) (refused : SqlFault → DatabaseFault) (tables : List TableName)
    (parameters : Nat) : Option StorageFailure :=
  if !db.connected then some (.database .disconnected)
  else if maxParameters < parameters then some (.database (refused .tooManyParameters))
  else
    (tables.find? fun t => !db.schema.has t).map fun t =>
      .database (refused (.noSuchTable t.text))

/-- The result of a query over some tables. -/
def query {α : Type} (db : Database) (tables : List TableName) (parameters : Nat) (result : α) :
    Except StorageFailure α :=
  match db.obstacle? .query tables parameters with
  | some failure => .error failure
  | none => .ok result

/-! ## Reference data -/

/-- The rows of a table of reference data. -/
def references? (rs : Records) : TableName → Option (Table RefId String)
  | .cities => some rs.cities
  | .statuses => some rs.statuses
  | .productTypes => some rs.productTypes
  | _ => none

/-- The records with other rows in a table of reference data. -/
def withReferences (rs : Records) (t : TableName) (rows : Table RefId String) : Records :=
  match t with
  | .cities => { rs with cities := rows }
  | .statuses => { rs with statuses := rows }
  | .productTypes => { rs with productTypes := rows }
  | _ => rs

/-- Some other row of a table of reference data has the name. -/
def nameTaken (rows : Table RefId String) (id : RefId) (name : String) : Bool :=
  rows.entries.any fun e => e.1 ≠ id && e.2 = name

/-- The reference row with a name. -/
def byName? (rows : Table RefId String) (name : String) : Option (RefId × String) :=
  rows.entries.find? fun e => e.2 = name

/-- A row of reference data put into its table: its number, then its name must be free. -/
def insertReference (d : TableDefinition) (rows : Table RefId String) (row : RefId × String) :
    Except SqlFault (Table RefId String) :=
  if rows.contains row.1 then .error (.primaryKey (d.text ++ ".id"))
  else if d.keepsUnique "name" && nameTaken rows row.1 row.2 then
    .error (.uniqueKey (d.text ++ ".name"))
  else .ok (rows.put row.1 row.2)

/-- **Rows put into a table of reference data**, all of them or none. -/
def insertReferences (db : Database) (t : TableName) (rows : List (RefId × String)) :
    Except SqlFault Database :=
  match db.schema.definition? t with
  | none => .error (.noSuchTable t.text)
  | some d =>
    match d.missing? ["id", "name"], references? db.records t with
    | none, some held =>
      (rows.foldlM (insertReference d) held).map fun held =>
        { db with records := withReferences db.records t held }
    | column, _ => .error (.noColumnNamed t.text (column.getD "name"))

/-! ## Foreign keys -/

/-- Foreign keys are on, and one of a table's links points at no row. -/
def dangling (db : Database) (t : TableName) (links : List Link) : Bool :=
  db.foreignKeys && (db.schema.foreignKeysOf t).any fun k =>
    links.any fun l => l.column = k.column && !db.records.holds k.target l.key

/-- The rows that point at some of the rows given, by foreign keys of a kind. -/
def pointing (db : Database) (onDelete : OnDelete) (rows : List RowKey) : List RowKey :=
  db.schema.tables.flatMap fun d =>
    ((db.records.linked d.table).filter fun row => d.foreignKeys.any fun k =>
      k.onDelete = onDelete &&
        row.2.any fun l => l.column = k.column && rows.contains ⟨k.target, l.key⟩).map
      fun row => ⟨d.table, row.1⟩

/-- Rows with those that belong to them, to these, and so on, so many times. -/
def withBelongings (db : Database) : Nat → List RowKey → List RowKey
  | 0, rows => rows
  | n + 1, rows => rows ++ db.withBelongings n (db.pointing .cascade rows)

/-- **Rows deleted**: with foreign keys on, rows that belong to them go too, and any other row
that points at one that goes forbids it. -/
def deleteRows (db : Database) (rows : List RowKey) : Except SqlFault Records :=
  if db.foreignKeys then
    let gone := db.withBelongings db.schema.tables.length rows
    if (db.pointing .refuse gone).all gone.contains then .ok (db.records.without gone)
    else .error .foreignKey
  else .ok (db.records.without rows)

/-! ## Tables and indexes -/

/-- **An index added** to a table: the table must be there, then the name free, unless an index
of the name may stay, and then the columns there. -/
def createIndex (db : Database) (i : Index) (mayStay : Bool) : Except SqlFault Database :=
  match db.schema.definition? i.table with
  | none => .error (.noSuchTable ("main." ++ i.table.text))
  | some d =>
    if db.schema.hasIndex i.name then
      if mayStay then .ok db else .error (.indexExists i.name)
    else
      match d.missing? i.reads with
      | some column => .error (.noSuchColumn column)
      | none =>
        if i.unique && i.onlyInProgress && db.records.crowded then
          .error (.uniqueKey (i.table.text ++ ".pickup_point_id"))
        else .ok { db with schema := db.schema.addIndex i }

/-- **A table dropped** with its rows and indexes. -/
def dropTable (db : Database) (t : TableName) : Except SqlFault Database :=
  if !db.schema.has t then .error (.noSuchTable t.text)
  else
    (db.deleteRows (db.records.keysOf t)).map fun records =>
      { db with schema := db.schema.dropTable t, records }

/-! ## Upkeep of reference data -/

/-- What keeps a statement that writes a table from running. -/
def writable (db : Database) (t : TableName) : Except DatabaseFault Unit :=
  match db.obstacle? .execution [t] 0 with
  | some (.database fault) => .error fault
  | _ => .ok ()

/-- Adds a row of reference data. -/
def addReference (db : Database) (t : TableName) (id : RefId) (name : String) :
    Except DatabaseFault Database := do
  db.writable t
  (db.insertReferences t [(id, name)]).mapError .execution

/-- Renames a row of reference data; the answer is the number of rows changed. -/
def renameReference (db : Database) (t : TableName) (id : RefId) (name : String) :
    Except DatabaseFault (Nat × Database) := do
  db.writable t
  match db.schema.definition? t, references? db.records t with
  | some d, some rows =>
    if !rows.contains id then .ok (0, db)
    else if d.keepsUnique "name" && nameTaken rows id name then
      .error (.execution (.uniqueKey (t.text ++ ".name")))
    else .ok (1, { db with records := withReferences db.records t (rows.put id name) })
  | _, _ => .error (.execution (.noSuchColumn "name"))

/-- Deletes the row of a number, if there is one, unless other rows point at it and foreign
keys are on; the answer is the number of rows changed. -/
def deleteReference (db : Database) (t : TableName) (id : RefId) :
    Except DatabaseFault (Nat × Database) := do
  db.writable t
  if !db.records.holds t (.number id) then .ok (0, db)
  else
    ((db.deleteRows [⟨t, .number id⟩]).mapError .execution).map fun records =>
      (1, { db with records })

/-- The database without foreign keys kept. -/
def ignoreForeignKeys (db : Database) : Database := { db with foreignKeys := false }

/-- The database after its connections were closed. -/
def disconnect (db : Database) : Database := { db with connected := false }

/-- The rows of a table of reference data, by their numbers. -/
def listReferences (db : Database) (t : TableName) :
    Except StorageFailure (List (RefId × String)) :=
  db.query [t] 0
    (match references? db.records t with
      | some rows => rows.entries.mergeSort fun a b => a.1 ≤ b.1
      | none => [])

end Database
end PickupLedger
