import PickupLedger.Time.Instant
import PickupLedger.Text.Blank
import PickupLedger.Text.Digits

/-!
# Reading an instant

A date and time is read in a relaxed RFC 3339: blanks may stand in front of every
number, of every separator between two numbers, before the offset and at the end;
one `T`, `t` or space parts date and time.  Months, days, hours, minutes and
seconds have one or two digits, a year one to four, or any number of them after a
sign.  Of a fraction the first nine digits count.  The offset is `Z`, `UTC` or a
sign with two digits of hours and two of minutes, below 24 hours either way.

`Instant.read?` gives the instant in UTC: the date must exist, second 60 is a leap
second, and the result must lie in the years an instant has.
-/

namespace PickupLedger.Instant

open Text

/-- What is left of a text after a part of it has been read. -/
abbrev Rest := List Char

/-- A number of at most `most` digits after blanks. -/
def readNumber? (most : Nat) (cs : List Char) : Option (Nat × Rest) :=
  (takeDigits most (dropBlanks cs)).map fun (ds, rest) => (Text.number ds, rest)

/-- A given character after blanks. -/
def readMark? (mark : Char) (cs : List Char) : Option Rest :=
  match dropBlanks cs with
  | c :: rest => if c = mark then some rest else none
  | [] => none

/-- A year: any number of digits after a sign, else one to four. -/
def readYear? (cs : List Char) : Option (Int × Rest) :=
  match dropBlanks cs with
  | '+' :: rest => (takeDigits rest.length rest).map fun (ds, r) => ((Text.number ds : Int), r)
  | '-' :: rest => (takeDigits rest.length rest).map fun (ds, r) => (-(Text.number ds : Int), r)
  | rest => (takeDigits 4 rest).map fun (ds, r) => ((Text.number ds : Int), r)

/-- A date of one of the years an instant has. -/
def IsDate (c : Civil) : Prop :=
  c.Valid ∧ firstYear ≤ c.year ∧ c.year ≤ lastYear

instance (c : Civil) : Decidable (IsDate c) := inferInstanceAs (Decidable (_ ∧ _))

/-- A date: year, month and day with hyphens between them. -/
def readDate? (cs : List Char) : Option (Civil × Rest) := do
  let (year, cs) ← readYear? cs
  let cs ← readMark? '-' cs
  let (month, cs) ← readNumber? 2 cs
  let cs ← readMark? '-' cs
  let (day, cs) ← readNumber? 2 cs
  let c := Civil.mk year month day
  if IsDate c then some (c, cs) else none

/-- The fraction behind a second in nanoseconds; a point needs a digit. -/
def readFraction? (cs : List Char) : Option (Nat × Rest) :=
  match cs with
  | '.' :: rest =>
    (takeDigits 9 rest).map fun (ds, r) =>
      (Text.number ds * Nat.pow 10 (9 - ds.length), r.dropWhile Char.isDigit)
  | _ => some (0, cs)

/-- A time of day: hour, minute, second and fraction. -/
structure Clock where
  hour : Nat
  minute : Nat
  second : Nat
  nanos : Nat

/-- A time of day with its separators. -/
def readClock? (cs : List Char) : Option (Clock × Rest) := do
  let (hour, cs) ← readNumber? 2 cs
  let cs ← readMark? ':' cs
  let (minute, cs) ← readNumber? 2 cs
  let cs ← readMark? ':' cs
  let (second, cs) ← readNumber? 2 cs
  let (nanos, cs) ← readFraction? cs
  if hour ≤ 23 ∧ minute ≤ 59 ∧ second ≤ 60 then some (⟨hour, minute, second, nanos⟩, cs) else none

/-- Two digits. -/
def readPair? (cs : List Char) : Option (Nat × Rest) :=
  match cs with
  | a :: b :: rest => if a.isDigit ∧ b.isDigit then some (Text.number [a, b], rest) else none
  | _ => none

/-- Hours and minutes of an offset, in seconds. -/
def readHourMinute? (cs : List Char) : Option (Int × Rest) := do
  let (hours, cs) ← readPair? cs
  let (minutes, cs) ← readPair? (cs.dropWhile fun c => c == ':' || isBlank c)
  if hours ≤ 23 ∧ minutes ≤ 59 then some (((hours * 3600 + minutes * 60 : Nat) : Int), cs)
  else none

/-- An offset from UTC in seconds. -/
def readOffset? (cs : List Char) : Option (Int × Rest) :=
  if (cs.take 3).map Char.toUpper = ['U', 'T', 'C'] then some (0, cs.drop 3)
  else
    match cs with
    | 'Z' :: rest => some (0, rest)
    | 'z' :: rest => some (0, rest)
    | '+' :: rest => readHourMinute? rest
    | c :: rest =>
      if c = '-' ∨ c = '\u2212' then (readHourMinute? rest).map fun (s, r) => (-s, r) else none
    | [] => none

/-- The mark between date and time. -/
def readJoint? (cs : List Char) : Option Rest :=
  match cs with
  | c :: rest => if c = 'T' ∨ c = 't' ∨ c = ' ' then some rest else none
  | [] => none

/-- The instant of a date and a time of day at an offset from UTC. -/
def ofLocal? (date : Civil) (clock : Clock) (offset : Int) : Option Instant :=
  let leap := clock.second = 60
  let second := if leap then 59 else clock.second
  let nanos := clock.nanos + (if leap then 1000000000 else 0)
  ofParts? (date.dayNumber * 86400 + (clock.hour * 3600 + clock.minute * 60 + second : Nat) - offset)
    nanos

/-- **Reading an instant** from the whole of a text. -/
def read? (cs : List Char) : Option Instant := do
  let (date, cs) ← readDate? cs
  let cs ← readJoint? cs
  let (clock, cs) ← readClock? cs
  let (offset, cs) ← readOffset? (dropBlanks cs)
  if (dropBlanks cs).isEmpty then ofLocal? date clock offset else none

/-- Reading an instant from a string. -/
def ofString? (s : String) : Option Instant := read? s.toList

end PickupLedger.Instant
