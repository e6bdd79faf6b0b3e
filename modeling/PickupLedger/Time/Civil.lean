/-!
# The civil calendar

Dates of the proleptic Gregorian calendar and their distance in days from
1970-01-01.  Years are counted from the first of March, so that the leap day is
the last day of a year; 400 such years are 146097 days.
-/

namespace PickupLedger

/-- A date by year, month and day.  Year 0 is 1 BC. -/
structure Civil where
  year : Int
  month : Nat
  day : Nat
  deriving DecidableEq, Repr

namespace Civil

/-- A year with a 29th of February. -/
def isLeap (year : Int) : Bool :=
  year % 4 == 0 && (year % 100 != 0 || year % 400 == 0)

/-- The number of days of a month. -/
def daysIn (year : Int) (month : Nat) : Nat :=
  if month = 2 then (if isLeap year then 29 else 28)
  else if month = 4 ∨ month = 6 ∨ month = 9 ∨ month = 11 then 30
  else 31

/-- **The date exists.** -/
def Valid (c : Civil) : Prop :=
  (1 ≤ c.month ∧ c.month ≤ 12) ∧ 1 ≤ c.day ∧ c.day ≤ daysIn c.year c.month

instance (c : Civil) : Decidable c.Valid := inferInstanceAs (Decidable (_ ∧ _))

/-- **Days since 1970-01-01**, negative before it. -/
def dayNumber (c : Civil) : Int :=
  let year := if c.month ≤ 2 then c.year - 1 else c.year
  let inEra := year % 400
  let fromMarch : Int := ((c.month + 9) % 12 : Nat)
  let inYear := (153 * fromMarch + 2) / 5 + c.day - 1
  year / 400 * 146097 + (inEra * 365 + inEra / 4 - inEra / 100 + inYear) - 719468

/-- **The date of a day number.** -/
def ofDayNumber (n : Int) : Civil :=
  let era := (n + 719468) / 146097
  let inEra := (n + 719468) % 146097
  let year := (inEra - inEra / 1460 + inEra / 36524 - inEra / 146096) / 365
  let inYear := inEra - (365 * year + year / 4 - year / 100)
  let fromMarch := (5 * inYear + 2) / 153
  let day := inYear - (153 * fromMarch + 2) / 5 + 1
  let month := if fromMarch < 10 then fromMarch + 3 else fromMarch - 9
  { year := era * 400 + year + (if month ≤ 2 then 1 else 0)
    month := month.toNat
    day := day.toNat }

end Civil
end PickupLedger
