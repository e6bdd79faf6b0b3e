import PickupLedger.Page
import PickupLedger.Uuid
import PickupLedger.Text.Digits

/-!
# Failures

A store fails with a `StorageFailure`: the database refused, a unique key is
taken, or a record makes no sense.  An operation fails with a `Failure`, which
names what stands in its way and falls into one of four kinds.  A storage failure
that an operation cannot explain becomes `Failure.internal`, with the step that
met it.
-/

namespace PickupLedger

/-! ## What a store reports -/

/-- What a database says about a statement, with its number. -/
inductive SqlFault where
  | foreignKey
  /-- A primary key is taken. -/
  | primaryKey (column : String)
  /-- A unique key is taken. -/
  | uniqueKey (column : String)
  | noSuchTable (table : String)
  | noSuchColumn (column : String)
  /-- A row with a column that its table does not have. -/
  | noColumnNamed (table column : String)
  | indexExists (index : String)
  /-- More parameters than a statement may have. -/
  | tooManyParameters
  deriving DecidableEq, Repr

namespace SqlFault

/-- The number of a fault. -/
def code : SqlFault → Nat
  | .foreignKey => 787
  | .primaryKey _ => 1555
  | .uniqueKey _ => 2067
  | .noSuchTable _ | .noSuchColumn _ | .noColumnNamed .. | .indexExists _ | .tooManyParameters => 1

/-- The words of a fault. -/
def message : SqlFault → String
  | .foreignKey => "FOREIGN KEY constraint failed"
  | .primaryKey column | .uniqueKey column => "UNIQUE constraint failed: " ++ column
  | .noSuchTable table => "no such table: " ++ table
  | .noSuchColumn column => "no such column: " ++ column
  | .noColumnNamed table column => "table " ++ table ++ " has no column named " ++ column
  | .indexExists index => "index " ++ index ++ " already exists"
  | .tooManyParameters => "too many SQL variables"

/-- A key that must be unique is taken. -/
def isTaken : SqlFault → Bool
  | .primaryKey _ | .uniqueKey _ => true
  | _ => false

end SqlFault

/-- **A failure of the database.** -/
inductive DatabaseFault where
  /-- A failure in words of its own. -/
  | custom (text : String)
  /-- A statement that writes was refused. -/
  | execution (fault : SqlFault)
  /-- A query was refused. -/
  | query (fault : SqlFault)
  /-- There is no connection any more. -/
  | disconnected
  deriving DecidableEq, Repr

namespace DatabaseFault

/-- How a refused statement is told. -/
def refused (fault : SqlFault) : String :=
  "error returned from database: (code: " ++ String.ofList (Text.decimal fault.code) ++ ") " ++
    fault.message

/-- The words of a database failure. -/
def message : DatabaseFault → String
  | .custom text => "Custom Error: " ++ text
  | .execution fault => "Execution Error: " ++ refused fault
  | .query fault => "Query Error: " ++ refused fault
  | .disconnected => "Failed to acquire connection from pool: Connection closed"

end DatabaseFault

/-- **A failure of a store.** -/
inductive StorageFailure where
  | database (fault : DatabaseFault)
  /-- A unique key is taken. -/
  | duplicate (what : String)
  /-- A record makes no sense. -/
  | corrupt (what : String)
  deriving DecidableEq, Repr

namespace StorageFailure

/-- The words of a storage failure. -/
def message : StorageFailure → String
  | .database fault => "Database error: " ++ fault.message
  | .duplicate what => "Unique constraint violated: " ++ what
  | .corrupt what => "Corrupt record: " ++ what

/-- A unique key is taken. -/
def isDuplicate : StorageFailure → Bool
  | .duplicate _ => true
  | _ => false

end StorageFailure

/-! ## What an operation reports -/

/-- The kinds of failures. -/
inductive FailureKind where
  | notFound
  | conflict
  | validation
  | internal
  deriving DecidableEq, Repr

/-- **A failure of an operation.** -/
inductive Failure where
  | cityNotFound (name : String)
  | pickupPointNotFound (id : Uuid)
  | unknownProductType (name : String)
  | noProductToRemove (pickupPoint : Uuid)
  | notFound (entity field value : String)
  | duplicatePickupPoint (id : Uuid)
  | receptionAlreadyInProgress (pickupPoint : Uuid)
  | noActiveReception (pickupPoint : Uuid)
  | validation (text : String)
  /-- A storage failure met at a step of an operation. -/
  | internal (step : String) (source : StorageFailure)
  deriving DecidableEq, Repr

namespace Failure

/-- The kind of a failure. -/
def kind : Failure → FailureKind
  | .cityNotFound _ | .pickupPointNotFound _ | .unknownProductType _ | .noProductToRemove _
  | .notFound .. => .notFound
  | .duplicatePickupPoint _ | .receptionAlreadyInProgress _ | .noActiveReception _ => .conflict
  | .validation _ => .validation
  | .internal .. => .internal

/-- The words of a failure. -/
def message : Failure → String
  | .cityNotFound name => "City '" ++ name ++ "' not found"
  | .pickupPointNotFound id => "Pickup point " ++ id.text ++ " not found"
  | .unknownProductType name => "Product type '" ++ name ++ "' not found"
  | .noProductToRemove id =>
    "No product to remove in the active reception of pickup point " ++ id.text
  | .notFound entity field value => "Not found: " ++ entity ++ " with " ++ field ++ "=" ++ value
  | .duplicatePickupPoint id => "Pickup point " ++ id.text ++ " already exists"
  | .receptionAlreadyInProgress id =>
    "Pickup point " ++ id.text ++ " already has a reception in progress"
  | .noActiveReception id => "Pickup point " ++ id.text ++ " has no reception in progress"
  | .validation text => "Validation: " ++ text
  | .internal step source => step ++ ": " ++ source.message

end Failure

/-- What is wrong with a page or window. -/
def ListFault.message : ListFault → String
  | .pageTooSmall => "page must be at least 1"
  | .limitOutOfRange =>
    "limit must be between 1 and " ++ String.ofList (Text.decimal Page.maxLimit.toNat)
  | .windowReversed => "startDate must not be after endDate"

/-- A page or window that cannot be asked for fails the operation. -/
def Failure.ofListFault (fault : ListFault) : Failure := .validation fault.message

end PickupLedger
