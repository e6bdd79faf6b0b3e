import PickupLedger.Proofs.DatabaseBooks
import PickupLedger.Proofs.InMemoryBooks
import PickupLedger.Proofs.Interleaving
import PickupLedger.Store.Backend

/-!
# Both stores

A `Backend` keeps books because both of its kinds do.  A service starts with one that has
no records (`Backend.IsNew`): a new store in memory, or a new database that all migrations
have been applied to.
-/

namespace PickupLedger.Backend

/-- What the store holds. -/
def books : Backend → Books
  | .memory store => store.books
  | .database db => db.books

/-- A sound store of its kind. -/
def Sound : Backend → Prop
  | .memory store => store.Sound
  | .database db => db.Sound

instance : Bookkeeping Backend where
  books := books
  Sound := Sound
  sound_answer {s c} hs hc := by
    cases s with
    | memory store => exact InMemory.Sound.answer hs hc
    | database db => exact Database.Sound.answer hs hc
  step_answer {s c} hs hc := by
    cases s with
    | memory store => exact InMemory.Sound.step hs hc
    | database db => exact Database.Sound.step hs hc

/-- **A store without records**, with the reference data that it was seeded with. -/
inductive IsNew : Backend → Prop where
  | memory : IsNew (.memory .new)
  | database : IsNew (.database .seeded)

theorem IsNew.sound {store : Backend} (h : store.IsNew) : Bookkeeping.Sound store := by
  cases h with
  | memory => exact InMemory.new_sound
  | database => exact Database.seeded_sound

theorem IsNew.books {store : Backend} (h : store.IsNew) : Bookkeeping.books store = .empty := by
  cases h with
  | memory => exact InMemory.books_new
  | database => exact Database.books_seeded

section Start
variable {store : Backend} (hnew : store.IsNew) {requests : List Request}
  (hids : (requests.filterMap Request.fresh?).Nodup) (schedule : List Nat)
include hnew hids

/-- Operations that start on a new store only get into regular states. -/
theorem IsNew.regular : ((SideBySide.start store requests).run schedule).Regular :=
  (SideBySide.start_regular hnew.sound hnew.books hids).run schedule

/-- Their account goes back to nothing. -/
theorem IsNew.reaches :
    Account.Reaches .start ((SideBySide.start store requests).run schedule).account := by
  have hstart := SideBySide.start_regular hnew.sound hnew.books hids
  have hreach := hstart.run_reaches schedule
  rwa [SideBySide.start_account hnew.books] at hreach

end Start
end PickupLedger.Backend
