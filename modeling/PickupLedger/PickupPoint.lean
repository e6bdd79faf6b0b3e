import PickupLedger.Recency
import PickupLedger.Reference

/-!
# Pickup points

A pickup point is a place that goods are shipped to.  Its caller chooses its
identifier; its city is a reference that an answer resolves.
-/

namespace PickupLedger

/-- **A pickup point.** -/
structure PickupPoint where
  id : Uuid
  registered : Instant
  cityId : RefId
  /-- The city behind `cityId`, once it has been resolved. -/
  city : Option City
  deriving DecidableEq, Repr

namespace PickupPoint

/-- A pickup point in a city that is known. -/
def inCity (id : Uuid) (registered : Instant) (city : City) : PickupPoint :=
  ⟨id, registered, city.id, some city⟩

/-- The pickup point moved to a city. -/
def withCity (p : PickupPoint) (city : City) : PickupPoint :=
  { p with cityId := city.id, city := some city }

/-- The name of the city, if it has been resolved. -/
def cityName? (p : PickupPoint) : Option String := p.city.map City.name

/-- The order key of a pickup point: when it was registered. -/
def recency (p : PickupPoint) : Recency := ⟨p.registered, p.id⟩

end PickupPoint
end PickupLedger
