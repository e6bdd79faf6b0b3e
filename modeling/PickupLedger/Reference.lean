import PickupLedger.Text.Digits

/-!
# Reference data

Cities, product types and reception statuses are small lists that a store is
seeded with.  Records point at them by a number of 32 bits (`RefId`) and answers
show them by name.
-/

namespace PickupLedger

/-- The number of a reference row. -/
abbrev RefId := Int32

/-- A reference number in decimal. -/
def RefId.text (id : RefId) : String := String.ofList (Text.integer id.toInt)

/-- **A city** with pickup points. -/
structure City where
  id : RefId
  name : String
  deriving DecidableEq, Repr

/-- **A type of product** that may be logged. -/
structure ProductType where
  id : RefId
  name : String
  deriving DecidableEq, Repr

/-- **The status of a reception.** -/
inductive StatusKind where
  /-- Products may be added and removed. -/
  | inProgress
  /-- The end of a reception. -/
  | closed
  deriving DecidableEq, Repr

namespace StatusKind

/-- The name of a status. -/
def name : StatusKind → String
  | .inProgress => "in_progress"
  | .closed => "closed"

/-- The status of a name. -/
def ofName? (s : String) : Option StatusKind :=
  if s = "in_progress" then some .inProgress
  else if s = "closed" then some .closed
  else none

theorem ofName?_name (k : StatusKind) : ofName? k.name = some k := by
  cases k <;> decide

end StatusKind

/-- A status under the number that records use for it. -/
structure Status where
  id : RefId
  kind : StatusKind
  deriving DecidableEq, Repr

namespace Seed

/-- The cities of a new store. -/
def cities : List City := [⟨1, "Москва"⟩, ⟨2, "Санкт-Петербург"⟩, ⟨3, "Казань"⟩]

/-- The product types of a new store. -/
def productTypes : List ProductType := [⟨1, "электроника"⟩, ⟨2, "одежда"⟩, ⟨3, "обувь"⟩]

/-- The number of the status `inProgress`. -/
def inProgressId : RefId := 1

/-- The number of the status `closed`. -/
def closedId : RefId := 2

/-- The statuses of a new store. -/
def statuses : List Status := [⟨inProgressId, .inProgress⟩, ⟨closedId, .closed⟩]

end Seed
end PickupLedger
