import PickupLedger.Time.Instant
import PickupLedger.Text.Digits

/-!
# Instants as text

The written form of an instant is that of RFC 3339 in UTC: date, `T`, time, the
fraction if there is one, and the offset.  A fraction has 3, 6 or 9 digits, the
fewest that are exact.  Years outside 0 … 9999 carry a sign and at least four
digits.  A leap second is second 60.

Answers end in `Z` (`Instant.text`); records end in `+00:00` (`Instant.stored`),
and are compared by that text.
-/

namespace PickupLedger.Instant

open Text

/-- A year in at least four digits, with a sign outside 0 … 9999. -/
def yearText (year : Int) : List Char :=
  if 0 ≤ year ∧ year ≤ 9999 then padded 4 year.toNat
  else (if year < 0 then '-' else '+') :: padded 4 year.natAbs

/-- The fraction of a second: nothing for none, else a point and the fewest of 3, 6
and 9 digits that are exact. -/
def fractionText (nanos : Nat) : List Char :=
  if nanos = 0 then []
  else if nanos % 1000000 = 0 then '.' :: fixed 3 (nanos / 1000000)
  else if nanos % 1000 = 0 then '.' :: fixed 6 (nanos / 1000)
  else '.' :: fixed 9 nanos

/-- The date of an instant. -/
def date (i : Instant) : Civil := Civil.ofDayNumber (i.seconds / 86400)

/-- The second of the day, from 0 to 86399. -/
def secondOfDay (i : Instant) : Nat := (i.seconds % 86400).toNat

/-- Second of the minute, 60 in a leap second. -/
def secondOfMinute (i : Instant) : Nat :=
  i.secondOfDay % 60 + (if 1000000000 ≤ i.nanos then 1 else 0)

/-- Date and time without an offset. -/
def localText (i : Instant) : List Char :=
  yearText i.date.year ++ '-' :: fixed 2 i.date.month ++ '-' :: fixed 2 i.date.day ++
    'T' :: fixed 2 (i.secondOfDay / 3600) ++ ':' :: fixed 2 (i.secondOfDay / 60 % 60) ++
    ':' :: fixed 2 i.secondOfMinute ++ fractionText (i.nanos % 1000000000)

/-- **The written form** of an instant. -/
def chars (i : Instant) : List Char := i.localText ++ ['Z']

/-- The written form as a string. -/
def text (i : Instant) : String := String.ofList i.chars

/-- The form in which records hold an instant. -/
def stored (i : Instant) : List Char := i.localText ++ ['+', '0', '0', ':', '0', '0']

end PickupLedger.Instant
