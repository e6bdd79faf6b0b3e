import PickupLedger.Database.Answers
import PickupLedger.Store.InMemory
import PickupLedger.Store.Rehearsed

/-!
# Backends

The service keeps its records in memory or in a database; a `Backend` is either, chosen
when the service starts.  A health check asks whether the store can still be reached.
-/

namespace PickupLedger

/-- What a health check finds of a store. -/
inductive Health where
  /-- The store is no database. -/
  | inMemory
  | reachable
  | unreachable
  deriving DecidableEq, Repr

/-- **A store that can be checked.** -/
class Monitored (σ : Type) where
  health : σ → Health

instance : Monitored InMemory := ⟨fun _ => .inMemory⟩

instance : Monitored Database := ⟨fun db => if db.connected then .reachable else .unreachable⟩

instance {σ : Type} [Monitored σ] : Monitored (Rehearsed σ) := ⟨fun s => Monitored.health s.store⟩

/-- **The store of a service**, of one of two kinds. -/
inductive Backend where
  | memory (store : InMemory)
  | database (db : Database)

namespace Backend

/-- The answer to a call. -/
def answer (c : Call) : Backend → Answer c × Backend
  | .memory store =>
    let (answer, store) := InMemory.answer c store
    (answer, .memory store)
  | .database db =>
    let (answer, db) := Database.answer c db
    (answer, .database db)

instance : Storage Backend := ⟨answer⟩

/-- What a health check finds. -/
def health : Backend → Health
  | .memory store => Monitored.health store
  | .database db => Monitored.health db

instance : Monitored Backend := ⟨health⟩

end Backend
end PickupLedger
