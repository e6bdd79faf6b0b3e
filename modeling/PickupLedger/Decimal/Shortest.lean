import PickupLedger.Text.Digits

/-!
# The shortest decimal of a double

A finite double is `m * 2 ^ q`.  Every real that is nearer to it than to its
neighbours reads back as the same double; the ends of that interval do so exactly
when `m` is even.  `shortest` looks for a decimal in the interval on the grids of
1, 2, … 17 significant digits and takes the first grid that has one, so no
shorter decimal reads back, and of two on that grid the nearer, so none of that
length is closer.

Everything is computed on natural numbers.  The value and the two ends are kept
as numerators over one denominator, with the value multiplied by four so that
the ends, a quarter or half a unit away, are whole.
-/

namespace PickupLedger.Decimal

/-- A decimal number `digits * 10 ^ exponent`. -/
structure Scaled where
  digits : Nat
  exponent : Int
  deriving Repr, DecidableEq

/-- The reals that read back as one double: `low`, `mid` and `high` over `unit`,
the ends included when `closed`. -/
structure Interval where
  low : Nat
  mid : Nat
  high : Nat
  unit : Nat
  closed : Bool

/-- **The interval of a positive double**, given by its 64 bits. -/
def Interval.ofBits (bits : Nat) : Interval :=
  let fraction : Nat := bits % (1 <<< 52)
  let field : Nat := (bits >>> 52) % (1 <<< 11)
  let m : Nat := if field = 0 then fraction else fraction + (1 <<< 52)
  let q : Int := (if field = 0 then (1 : Int) else (field : Int)) - 1077
  let below : Nat := if fraction = 0 ∧ 1 < field then 1 else 2
  let up : Nat := 1 <<< q.toNat
  { low := (4 * m - below) * up
    mid := 4 * m * up
    high := (4 * m + 2) * up
    unit := 1 <<< (-q).toNat
    closed := m % 2 == 0 }

/-- The place of the first digit: `10 ^ (place - 1) ≤ mid / unit < 10 ^ place`. -/
def Interval.place (i : Interval) : Int :=
  if i.unit ≤ i.mid then
    (Text.decimal (i.mid / i.unit)).length
  else
    let z := (Text.decimal (i.unit / i.mid)).length
    if i.unit ≤ i.mid * Nat.pow 10 (z - 1) then 2 - (z : Int) else 1 - (z : Int)

/-- `c * 10 ^ e` lies in the interval. -/
def Interval.holds (i : Interval) (c : Nat) (e : Int) : Bool :=
  let point := c * i.unit * Nat.pow 10 e.toNat
  let shift := Nat.pow 10 (-e).toNat
  if i.closed then i.low * shift ≤ point && point ≤ i.high * shift
  else i.low * shift < point && point < i.high * shift

/-- The nearest decimal of the grid with step `10 ^ e` that the interval holds. -/
def Interval.nearest? (i : Interval) (e : Int) : Option Scaled :=
  let shift := Nat.pow 10 (-e).toNat
  let step := i.unit * Nat.pow 10 e.toNat
  let c := i.mid * shift / step
  let rest := i.mid * shift % step
  let upper := 2 * rest > step || (2 * rest == step && c % 2 == 1)
  match i.holds c e, i.holds (c + 1) e with
  | true, true => some ⟨if upper then c + 1 else c, e⟩
  | true, false => some ⟨c, e⟩
  | false, true => some ⟨c + 1, e⟩
  | false, false => none

/-- The same decimal with a last zero moved into the exponent. -/
def Scaled.trimmed (d : Scaled) : Scaled :=
  if d.digits ≠ 0 ∧ d.digits % 10 = 0 then ⟨d.digits / 10, d.exponent + 1⟩ else d

/-- **The shortest decimal that reads back** as the positive double with these
bits; with seventeen digits there always is one.  A point of the first grid may
be ten times one of its steps. -/
def shortest (bits : Nat) : Scaled :=
  let i := Interval.ofBits bits
  let grid (n : Nat) := i.nearest? (i.place - (n + 1))
  (((List.range 17).findSome? grid).getD ⟨0, 0⟩).trimmed

/-- A decimal written without an exponent, with a point and at least one digit on
either side of it. -/
def Scaled.positional (d : Scaled) : List Char :=
  let ds := Text.decimal d.digits
  let after := (-d.exponent).toNat
  if after = 0 then
    ds ++ List.replicate d.exponent.toNat '0' ++ ['.', '0']
  else if after < ds.length then
    ds.take (ds.length - after) ++ '.' :: ds.drop (ds.length - after)
  else
    '0' :: '.' :: (List.replicate (after - ds.length) '0' ++ ds)

end PickupLedger.Decimal
