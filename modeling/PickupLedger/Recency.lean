import PickupLedger.Time.Instant
import PickupLedger.Uuid

/-!
# Recency

Records that carry a time are ordered by it, and records of one time by their
identifiers: generated identifiers grow, so the order is that of creation.
`Recency.le` is a total order, and distinct identifiers never tie.
-/

namespace PickupLedger

/-- **The order key of a record**: its time, then its identifier. -/
structure Recency where
  time : Instant
  id : Uuid
  deriving DecidableEq, Repr

namespace Recency

/-- Older or the same. -/
def le (a b : Recency) : Bool :=
  if a.time = b.time then a.id.le b.id else a.time.le b.time

/-- The order as a three-way comparison. -/
def compare (a b : Recency) : Ordering :=
  (a.time.compare b.time).then (Ord.compare a.id.value b.id.value)

theorem le_iff {a b : Recency} :
    a.le b = true ↔ a.time.le b.time = true ∧ (a.time = b.time → a.id.value ≤ b.id.value) := by
  unfold le
  split
  · next h => simp [h, Uuid.le, Instant.le_refl]
  · next h => simp [h]

theorem le_refl (a : Recency) : a.le a = true := by
  simp [le_iff, Instant.le_refl]

theorem le_total (a b : Recency) : (a.le b || b.le a) = true := by
  unfold le
  by_cases h : a.time = b.time
  · simp only [h, if_true, Uuid.le, Bool.or_eq_true, decide_eq_true_eq]
    exact Nat.le_total ..
  · have h' : b.time ≠ a.time := fun e => h e.symm
    simpa [h, h'] using Instant.le_total a.time b.time

theorem le_trans {a b c : Recency} (h₁ : a.le b = true) (h₂ : b.le c = true) :
    a.le c = true := by
  rw [le_iff] at *
  refine ⟨Instant.le_trans h₁.1 h₂.1, fun h => ?_⟩
  have hab : a.time = b.time := Instant.le_antisymm h₁.1 (h ▸ h₂.1)
  exact Nat.le_trans (h₁.2 hab) (h₂.2 (hab ▸ h))

theorem le_antisymm {a b : Recency} (h₁ : a.le b = true) (h₂ : b.le a = true) : a = b := by
  rw [le_iff] at *
  have ht : a.time = b.time := Instant.le_antisymm h₁.1 h₂.1
  have hi : a.id = b.id := Uuid.ext (Nat.le_antisymm (h₁.2 ht) (h₂.2 ht.symm))
  cases a; cases b; simp_all

end Recency
end PickupLedger
