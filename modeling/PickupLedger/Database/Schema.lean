import PickupLedger.Text.Digits

/-!
# The schema of the database

Six tables hold the records: three of reference data, and one each of pickup points,
receptions and products.  A `Schema` says which of them there are, how each of these was
defined, with its columns and its foreign keys (`TableDefinition`), and which further indexes
there are.
-/

namespace PickupLedger.Database

/-- **The tables.** -/
inductive TableName where
  | cities
  | pickupPoints
  | statuses
  | receptions
  | productTypes
  | products
  deriving DecidableEq, Repr

namespace TableName

/-- The name of a table. -/
def text : TableName → String
  | .cities => "cities"
  | .pickupPoints => "pickup_points"
  | .statuses => "reception_statuses"
  | .receptions => "receptions"
  | .productTypes => "product_types"
  | .products => "products"

/-- All tables. -/
def all : List TableName :=
  [.cities, .pickupPoints, .statuses, .receptions, .productTypes, .products]

/-- The table of a name. -/
def ofText? (s : String) : Option TableName := all.find? fun t => t.text = s

end TableName

/-- A column of a table, which is never empty. -/
structure Column where
  name : String
  type : String
  /-- It is the primary key. -/
  isKey : Bool := false
  /-- No two rows have the same value. -/
  isUnique : Bool := false
  deriving DecidableEq, Repr

/-- What happens to rows that point at a row which is deleted. -/
inductive OnDelete where
  | refuse
  | cascade
  deriving DecidableEq, Repr

/-- A column that points at the key of another table. -/
structure ForeignKey where
  column : String
  target : TableName
  onDelete : OnDelete
  deriving DecidableEq, Repr

/-- **How a table is defined**: its columns and its foreign keys. -/
structure TableDefinition where
  table : TableName
  columns : List Column
  foreignKeys : List ForeignKey
  deriving DecidableEq, Repr

/-- An index over columns of a table. -/
structure Index where
  name : String
  table : TableName
  columns : List String
  unique : Bool
  /-- Only rows of receptions in progress are indexed. -/
  onlyInProgress : Bool
  deriving DecidableEq, Repr

namespace TableDefinition

/-- The name of the table. -/
def text (d : TableDefinition) : String := d.table.text

/-- There is a column of the name. -/
def hasColumn (d : TableDefinition) (name : String) : Bool := d.columns.any fun c => c.name = name

/-- The first of some columns that is not there. -/
def missing? (d : TableDefinition) (columns : List String) : Option String :=
  columns.find? fun name => !d.hasColumn name

/-- No two rows may have the same value in a column. -/
def keepsUnique (d : TableDefinition) (column : String) : Bool :=
  d.columns.any fun c => c.name = column && c.isUnique

/-- The indexes that come with a table: one for each unique column and for the key, unless that
is a number, by which the rows are stored anyway. -/
def keyIndexes (d : TableDefinition) : List Index :=
  (d.columns.filter fun c => c.isUnique || c.isKey && c.type ≠ "INTEGER").mapIdx fun i c =>
    { name := "sqlite_autoindex_" ++ d.text ++ "_" ++ String.ofList (Text.decimal (i + 1))
      table := d.table
      columns := [c.name]
      unique := true
      onlyInProgress := false }

end TableDefinition

namespace Index

/-- The columns that an index looks at. -/
def reads (i : Index) : List String :=
  i.columns ++ if i.onlyInProgress then ["status_id"] else []

/-- Pickup points by their registration. -/
def pointsByDate : Index :=
  ⟨"idx_pickup_points_registration_date", .pickupPoints, ["registration_date"], false, false⟩

/-- Receptions by their pickup point. -/
def receptionsByPoint : Index :=
  ⟨"idx_receptions_pickup_point", .receptions, ["pickup_point_id"], false, false⟩

/-- Receptions by the time they were opened. -/
def receptionsByDate : Index :=
  ⟨"idx_receptions_date_time", .receptions, ["date_time"], false, false⟩

/-- **One reception in progress** for each pickup point. -/
def oneInProgress : Index :=
  ⟨"ux_receptions_one_in_progress", .receptions, ["pickup_point_id"], true, true⟩

/-- Products by their reception and time. -/
def productsByReception : Index :=
  ⟨"idx_products_reception_date_time", .products, ["reception_id", "date_time"], false, false⟩

end Index

/-- **A schema**: the tables there are, as they were defined, and the indexes that were added
to them. -/
structure Schema where
  tables : List TableDefinition
  indexes : List Index
  deriving DecidableEq, Repr

namespace Schema

/-- A schema without tables. -/
def empty : Schema := ⟨[], []⟩

/-- How a table is defined, if it is there. -/
def definition? (s : Schema) (t : TableName) : Option TableDefinition :=
  s.tables.find? fun d => d.table = t

/-- The table is there. -/
def has (s : Schema) (t : TableName) : Bool := (s.definition? t).isSome

/-- The foreign keys of a table. -/
def foreignKeysOf (s : Schema) (t : TableName) : List ForeignKey :=
  match s.definition? t with
  | some d => d.foreignKeys
  | none => []

/-- The indexes of a table. -/
def indexesOf (s : Schema) (d : TableDefinition) : List Index :=
  d.keyIndexes ++ s.indexes.filter fun i => i.table = d.table

/-- There is an index of the name. -/
def hasIndex (s : Schema) (name : String) : Bool := s.indexes.any fun i => i.name = name

/-- A pickup point may have only one reception in progress. -/
def keepsOneInProgress (s : Schema) : Bool := s.indexes.contains .oneInProgress

/-- The schema with one more table, unless there is one of its name. -/
def addTable (s : Schema) (d : TableDefinition) : Schema :=
  if s.has d.table then s else { s with tables := s.tables ++ [d] }

/-- The schema with one more index. -/
def addIndex (s : Schema) (i : Index) : Schema := { s with indexes := s.indexes ++ [i] }

/-- The schema without a table and its indexes. -/
def dropTable (s : Schema) (t : TableName) : Schema :=
  ⟨s.tables.filter fun d => d.table ≠ t, s.indexes.filter fun i => i.table ≠ t⟩

end Schema
end PickupLedger.Database
