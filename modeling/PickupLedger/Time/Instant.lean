import PickupLedger.Time.Civil

/-!
# Instants

An `Instant` counts seconds and nanoseconds from 1970-01-01T00:00:00Z.  A leap
second has no number of its own: it is told as nanoseconds from 10⁹ on within the
last second of its minute, so it comes after all of that second and before the
next minute (`Instant.le`).  The years run from -262143 to 262142.

A `Span` of time is whole seconds and nanoseconds of one sign.
`Instant.shift?` moves an instant by a span: a move that stays inside a leap
second keeps it, any other move counts it as the second it belongs to, and a move
out of the years has no result.
-/

namespace PickupLedger

/-- The first year an instant can lie in. -/
def Instant.firstYear : Int := -262143

/-- The last year an instant can lie in. -/
def Instant.lastYear : Int := 262142

/-- The first second of the first year. -/
def Instant.firstSecond : Int := -8334601228800

/-- The last second of the last year. -/
def Instant.lastSecond : Int := 8210266876799

/-- **An instant** of civil time in UTC.  A leap second stands behind second 59 of a minute.
Leap seconds behind any other second are left out: a library of times can hold them, but no
text and no clock gives one, and none can be told from the second after it in a text. -/
structure Instant where
  /-- Seconds since 1970-01-01T00:00:00Z. -/
  seconds : Int
  /-- Nanoseconds within the second; a leap second has 10⁹ and more. -/
  nanos : Nat
  first_le : Instant.firstSecond ≤ seconds
  le_last : seconds ≤ Instant.lastSecond
  nanos_lt : nanos < 2000000000
  leap : 1000000000 ≤ nanos → seconds % 60 = 59
  deriving DecidableEq, Repr

namespace Instant

theorem firstSecond_eq : firstSecond = (Civil.mk firstYear 1 1).dayNumber * 86400 := by decide

theorem lastSecond_eq : lastSecond = (Civil.mk lastYear 12 31).dayNumber * 86400 + 86399 := by
  decide

/-- What makes two numbers an instant. -/
def Fits (seconds : Int) (nanos : Nat) : Prop :=
  firstSecond ≤ seconds ∧ seconds ≤ lastSecond ∧ nanos < 2000000000 ∧
    (1000000000 ≤ nanos → seconds % 60 = 59)

instance (seconds : Int) (nanos : Nat) : Decidable (Fits seconds nanos) :=
  inferInstanceAs (Decidable (_ ∧ _))

/-- The instant with these seconds and nanoseconds, if there is one. -/
def ofParts? (seconds : Int) (nanos : Nat) : Option Instant :=
  if h : Fits seconds nanos then
    some ⟨seconds, nanos, h.1, h.2.1, h.2.2.1, h.2.2.2⟩
  else none

/-- 1970-01-01T00:00:00Z. -/
def epoch : Instant := ⟨0, 0, by decide, by decide, by decide, by decide⟩

instance : Inhabited Instant := ⟨epoch⟩

@[ext] theorem ext {a b : Instant} (hs : a.seconds = b.seconds) (hn : a.nanos = b.nanos) :
    a = b := by
  cases a; cases b; simp_all

theorem fits (i : Instant) : Fits i.seconds i.nanos :=
  ⟨i.first_le, i.le_last, i.nanos_lt, i.leap⟩

theorem ofParts?_self (i : Instant) : ofParts? i.seconds i.nanos = some i :=
  dif_pos i.fits

/-! ## Order -/

/-- **Earlier or the same.** -/
def le (a b : Instant) : Bool :=
  a.seconds < b.seconds || (a.seconds == b.seconds && a.nanos ≤ b.nanos)

/-- The order as a three-way comparison. -/
def compare (a b : Instant) : Ordering :=
  (Ord.compare a.seconds b.seconds).then (Ord.compare a.nanos b.nanos)

theorem le_iff {a b : Instant} :
    a.le b = true ↔ a.seconds < b.seconds ∨ (a.seconds = b.seconds ∧ a.nanos ≤ b.nanos) := by
  simp [le]

theorem le_refl (a : Instant) : a.le a = true := by simp [le_iff]

theorem le_total (a b : Instant) : (a.le b || b.le a) = true := by
  simp only [Bool.or_eq_true, le_iff]; omega

theorem le_trans {a b c : Instant} (h₁ : a.le b = true) (h₂ : b.le c = true) :
    a.le c = true := by
  simp only [le_iff] at *; omega

theorem le_antisymm {a b : Instant} (h₁ : a.le b = true) (h₂ : b.le a = true) : a = b := by
  simp only [le_iff] at *; ext <;> omega

end Instant

/-! ## Moving in time -/

/-- **A span of time**: whole seconds and nanoseconds below 10⁹, of one sign. -/
structure Span where
  seconds : Int
  nanos : Int
  deriving DecidableEq, Repr

/-- A number of milliseconds as a span. -/
def Span.ofMillis (ms : Int) : Span :=
  ⟨ms.tdiv 1000, ms.tmod 1000 * 1000000⟩

namespace Instant

/-- A span from an instant that is in no leap second: nanoseconds carry over into
the seconds. -/
def carry (seconds nanos : Int) : Int × Nat :=
  if nanos < 0 then (seconds - 1, (nanos + 1000000000).toNat)
  else if 1000000000 ≤ nanos then (seconds + 1, (nanos - 1000000000).toNat)
  else (seconds, nanos.toNat)

/-- The seconds and nanoseconds that a span leads to. -/
def moved (i : Instant) (span : Span) : Int × Nat :=
  let nanos : Int := i.nanos
  if 1000000000 ≤ nanos then
    if 0 < span.seconds ∨ (0 < span.nanos ∧ 2000000000 ≤ nanos + span.nanos) then
      carry (i.seconds + span.seconds) (nanos - 1000000000 + span.nanos)
    else if span.seconds < 0 then
      carry (i.seconds + 1 + span.seconds) (nanos - 1000000000 + span.nanos)
    else (i.seconds, (nanos + span.nanos).toNat)
  else carry (i.seconds + span.seconds) (nanos + span.nanos)

/-- **An instant moved by a span**; `none` outside the years. -/
def shift? (i : Instant) (span : Span) : Option Instant :=
  let (seconds, nanos) := i.moved span
  ofParts? seconds nanos

end Instant
end PickupLedger
