import PickupLedger.Database.State

/-!
# Migrations

Six migrations build the schema one table at a time, each with its indexes and its
seeded rows (`Migration.up`), and take it down again (`Migration.down`).  A table that
is there already is left as it is, and so is the unique index over receptions in
progress; any other index that is there already is an error.  A `Migrated` database
records which migrations have been applied.

A `Command` moves through them in their order: `up` applies pending migrations,
`down` reverts applied ones in reverse, `fresh` starts over by dropping all tables,
`reset` reverts everything and `refresh` reverts and applies everything.
-/

namespace PickupLedger.Database

/-- **The migrations**, in their order. -/
inductive Migration where
  | createCities
  | createPickupPoints
  | createStatuses
  | createReceptions
  | createProductTypes
  | createProducts
  deriving DecidableEq, Repr

/-- A statement about the schema, or one that seeds it. -/
inductive Statement where
  /-- A table made, unless there is one of its name. -/
  | createTable (definition : TableDefinition)
  /-- An index made, or one of its name left as it is, if it may stay. -/
  | createIndex (index : Index) (mayStay : Bool)
  /-- Rows put into a table in one statement. -/
  | seed (table : TableName) (rows : List (RefId × String))
  | dropTable (table : TableName)
  deriving DecidableEq, Repr

/-- A statement run on a database. -/
def Statement.run (db : Database) : Statement → Except SqlFault Database
  | .createTable d => .ok { db with schema := db.schema.addTable d }
  | .createIndex i mayStay => db.createIndex i mayStay
  | .seed t rows => db.insertReferences t rows
  | .dropTable t => db.dropTable t

/-- Statements run one after the other, up to the first that fails. -/
def runAll (db : Database) : List Statement → Except SqlFault Database
  | [] => .ok db
  | s :: ss =>
    match s.run db with
    | .error e => .error e
    | .ok db => runAll db ss

namespace Migration

/-- All migrations, in their order. -/
def all : List Migration :=
  [.createCities, .createPickupPoints, .createStatuses, .createReceptions, .createProductTypes,
    .createProducts]

/-- The name a migration is recorded under. -/
def name : Migration → String
  | .createCities => "m20250301_000001_create_cities"
  | .createPickupPoints => "m20250301_000002_create_pickup_points"
  | .createStatuses => "m20250301_000003_create_reception_statuses"
  | .createReceptions => "m20250301_000004_create_receptions"
  | .createProductTypes => "m20250301_000005_create_product_types"
  | .createProducts => "m20250301_000006_create_products"

/-- The columns of reference data. -/
def referenceColumns : List Column :=
  [{ name := "id", type := "INTEGER", isKey := true },
    { name := "name", type := "varchar", isUnique := true }]

/-- **The table that a migration makes.** -/
def definition : Migration → TableDefinition
  | .createCities => ⟨.cities, referenceColumns, []⟩
  | .createPickupPoints =>
    { table := .pickupPoints
      columns :=
        [{ name := "id", type := "uuid_text", isKey := true },
          { name := "registration_date", type := "timestamp_with_timezone_text" },
          { name := "city_id", type := "INTEGER" }]
      foreignKeys := [⟨"city_id", .cities, .refuse⟩] }
  | .createStatuses => ⟨.statuses, referenceColumns, []⟩
  | .createReceptions =>
    { table := .receptions
      columns :=
        [{ name := "id", type := "uuid_text", isKey := true },
          { name := "pickup_point_id", type := "uuid_text" },
          { name := "date_time", type := "timestamp_with_timezone_text" },
          { name := "status_id", type := "INTEGER" }]
      foreignKeys :=
        [⟨"pickup_point_id", .pickupPoints, .cascade⟩, ⟨"status_id", .statuses, .refuse⟩] }
  | .createProductTypes => ⟨.productTypes, referenceColumns, []⟩
  | .createProducts =>
    { table := .products
      columns :=
        [{ name := "id", type := "uuid_text", isKey := true },
          { name := "date_time", type := "timestamp_with_timezone_text" },
          { name := "type_id", type := "INTEGER" },
          { name := "reception_id", type := "uuid_text" }]
      foreignKeys :=
        [⟨"reception_id", .receptions, .cascade⟩, ⟨"type_id", .productTypes, .refuse⟩] }

/-- The table a migration is about. -/
def table (m : Migration) : TableName := m.definition.table

/-- The indexes a migration adds to its table. -/
def indexes : Migration → List Index
  | .createCities | .createStatuses | .createProductTypes => []
  | .createPickupPoints => [.pointsByDate]
  | .createReceptions => [.receptionsByPoint, .receptionsByDate, .oneInProgress]
  | .createProducts => [.productsByReception]

/-- An index that a migration leaves as it is, if it is there already. -/
def mayStay (i : Index) : Bool := i = .oneInProgress

/-- The rows a migration seeds its table with. -/
def seeds : Migration → List (RefId × String)
  | .createCities => Seed.cities.map fun c => (c.id, c.name)
  | .createStatuses => Seed.statuses.map fun s => (s.id, s.kind.name)
  | .createProductTypes => Seed.productTypes.map fun t => (t.id, t.name)
  | .createPickupPoints | .createReceptions | .createProducts => []

/-- The statement that seeds the table of a migration, if rows are to be seeded. -/
def seeding (m : Migration) : List Statement :=
  if m.seeds.isEmpty then [] else [.seed m.table m.seeds]

/-- **The statements of a migration**: its table, its indexes, its rows. -/
def up (m : Migration) : List Statement :=
  .createTable m.definition :: (m.indexes.map (fun i => .createIndex i (mayStay i)) ++ m.seeding)

/-- The statements that take a migration back. -/
def down (m : Migration) : List Statement := [.dropTable m.table]

end Migration

/-! ## Commands -/

/-- **A database with its record of migrations.** -/
structure Migrated where
  database : Database
  applied : List Migration

/-- A new database. -/
def Migrated.new : Migrated := ⟨.empty, []⟩

/-- What can be asked of the migrations. -/
inductive Command where
  /-- Applies so many pending migrations, or all. -/
  | up (count : Option Nat)
  /-- Reverts so many applied migrations, or all. -/
  | down (count : Option Nat)
  /-- Drops all tables and applies all migrations. -/
  | fresh
  /-- Reverts all migrations. -/
  | reset
  /-- Reverts all migrations and applies them again. -/
  | refresh
  deriving DecidableEq, Repr

/-- So many from the front of a list, or all of it. -/
def upTo {α : Type} (count : Option Nat) (xs : List α) : List α :=
  match count with
  | some n => xs.take n
  | none => xs

namespace Migrated

/-- The migrations that have not been applied. -/
def pending (m : Migrated) : List Migration :=
  Migration.all.filter fun x => !m.applied.contains x

/-- One migration applied. -/
def apply (m : Migrated) (x : Migration) : Except SqlFault Migrated :=
  (runAll m.database x.up).map fun database => ⟨database, m.applied ++ [x]⟩

/-- One migration reverted. -/
def revert (m : Migrated) (x : Migration) : Except SqlFault Migrated :=
  (runAll m.database x.down).map fun database => ⟨database, m.applied.filter fun y => y ≠ x⟩

/-- Pending migrations applied in their order. -/
def up (m : Migrated) (count : Option Nat) : Except SqlFault Migrated :=
  (upTo count m.pending).foldlM apply m

/-- Applied migrations reverted, the last one first. -/
def down (m : Migrated) (count : Option Nat) : Except SqlFault Migrated :=
  (upTo count m.applied.reverse).foldlM revert m

/-- All tables dropped while foreign keys are off. -/
def dropAll (m : Migrated) : Except SqlFault Migrated :=
  let drops := m.database.schema.tables.map fun d => Statement.dropTable d.table
  (runAll { m.database with foreignKeys := false } drops).map
    fun database => ⟨{ database with foreignKeys := true }, []⟩

/-- **A command carried out.** -/
def execute (m : Migrated) : Command → Except SqlFault Migrated
  | .up count => m.up count
  | .down count => m.down count
  | .fresh => do (← m.dropAll).up none
  | .reset => m.down none
  | .refresh => do (← m.down none).up none

/-- The database after the first migrations. -/
def afterFirst (count : Option Nat) : Migrated :=
  match new.up count with
  | .ok m => m
  | .error _ => new

end Migrated
end PickupLedger.Database
