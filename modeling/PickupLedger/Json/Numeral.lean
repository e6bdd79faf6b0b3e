import PickupLedger.Decimal.Shortest

/-!
# Numbers of a JSON text

A `Numeral` is a number as it is spelled: sign, whole part, digits behind the point,
exponent.  One without fraction and exponent that fits 64 bits is an integer
(`Numeral.integer?`); minus zero is not.  Every other one stands for a double
(`Numeral.double?`), unless it is too large for any.

The double is the one that follows from the first digits that fit 64 bits, scaled
by powers of ten one rounding at a time; further digits only move the point.
-/

namespace PickupLedger.Json

/-- **A number as it is spelled.** -/
structure Numeral where
  negative : Bool
  whole : Nat
  fraction : List (Fin 10)
  exponent : Option Int
  deriving DecidableEq, Repr

namespace Numeral

/-- The spelling of an integer. -/
def ofInt (i : Int) : Numeral := ⟨decide (i < 0), i.natAbs, [], none⟩

/-- The integer a number is: no fraction, no exponent, at least `-2 ^ 63`, below
`2 ^ 64`, and not minus zero. -/
def integer? (n : Numeral) : Option Int :=
  if n.fraction ≠ [] ∨ n.exponent ≠ none then none
  else if n.negative then
    if 0 < n.whole ∧ n.whole ≤ 1 <<< 63 then some (-n.whole) else none
  else if n.whole < 1 <<< 64 then some n.whole else none

/-! ## Doubles -/

/-- Digits taken so far, and whether they still fit 64 bits: then a further digit
counts, otherwise it only moves the point. -/
structure Digits where
  value : Nat
  scale : Int
  full : Bool

/-- One more digit of the whole part. -/
def Digits.wholeDigit (d : Digits) (x : Nat) : Digits :=
  if d.full then { d with scale := d.scale + 1 }
  else if d.value * 10 + x < 1 <<< 64 then { d with value := d.value * 10 + x }
  else { d with scale := d.scale + 1, full := true }

/-- One more digit behind the point. -/
def Digits.fractionDigit (d : Digits) (x : Nat) : Digits :=
  if d.full then d
  else if d.value * 10 + x < 1 <<< 64 then ⟨d.value * 10 + x, d.scale - 1, false⟩
  else { d with full := true }

/-- The digits that count, with the power of ten they are to be scaled by. -/
def digits (n : Numeral) : Digits :=
  let whole := ((Text.decimal n.whole).map fun c => c.toNat - 48).foldl Digits.wholeDigit ⟨0, 0, false⟩
  (n.fraction.map Fin.val).foldl Digits.fractionDigit { whole with full := false }

/-- A double scaled by a power of ten: one multiplication or division, after as
many divisions by `10 ^ 308` as a very small power needs; `none` when too large. -/
def scaled? (f : Float) (e : Int) : Option Float :=
  if e.natAbs ≤ 308 then
    let power := Float.ofScientific 1 false e.natAbs
    if 0 ≤ e then
      let g := f * power
      if g.isInf then none else some g
    else some (f / power)
  else if f == 0.0 then some f
  else if 0 ≤ e then none
  else
    let g := f / Float.ofScientific 1 false 308
    if g == 0.0 then some g
    else
      let power := Float.ofScientific 1 false ((e + 308).natAbs)
      if (e + 308).natAbs ≤ 308 then some (g / power) else some 0.0

/-- The size of the double a number stands for; `none` when there is none. -/
def magnitude? (n : Numeral) : Option Float :=
  let d := n.digits
  let e := n.exponent.getD 0
  if 1 <<< 31 ≤ e.natAbs then
    if d.value ≠ 0 ∧ 0 < e then none else some 0.0
  else scaled? d.value.toUInt64.toFloat (max (-0x80000000) (min 0x7fffffff (d.scale + e)))

/-- The number stands for some double or integer. -/
def isRepresentable (n : Numeral) : Bool :=
  n.integer?.isSome || n.magnitude?.isSome

/-- **The text of the double** a number stands for, without an exponent and with at
least one digit behind the point. -/
def doubleText (n : Numeral) : List Char :=
  let bits := (n.magnitude?.getD 0.0).toBits.toNat
  let size := if bits = 0 then ['0', '.', '0'] else (Decimal.shortest bits).positional
  if n.negative then '-' :: size else size

end Numeral
end PickupLedger.Json
