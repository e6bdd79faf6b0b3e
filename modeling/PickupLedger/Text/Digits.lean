/-!
# Decimal digits

Numbers as text.  `decimal` writes a number with as few digits as it needs,
`fixed` writes its last digits in a field of a given width, and `number` reads a
run of digits back.  `takeDigits` splits off the run of digits a reader takes, at
least one and at most as many as it allows.
-/

namespace PickupLedger.Text

/-- The digit with the value of the last decimal digit of `n`. -/
def digit (n : Nat) : Char :=
  Char.ofNat (48 + n % 10)

/-- **A number in decimal**, without leading zeros. -/
def decimal (n : Nat) : List Char :=
  Nat.toDigits 10 n

/-- An integer in decimal, with a sign if it is negative. -/
def integer (i : Int) : List Char :=
  if i < 0 then '-' :: decimal i.natAbs else decimal i.natAbs

/-- **The last `width` decimal digits of a number**, zeros in front included. -/
def fixed : Nat → Nat → List Char
  | 0, _ => []
  | width + 1, n => fixed width (n / 10) ++ [digit n]

/-- A number in decimal, filled up with zeros to at least `width` digits. -/
def padded (width n : Nat) : List Char :=
  List.replicate (width - (decimal n).length) '0' ++ decimal n

/-- The number that a run of digits stands for. -/
def number (cs : List Char) : Nat :=
  Nat.ofDigitChars 10 cs 0

/-- **The digits at the front of a text**: at most `most` of them, and the text
behind them; `none` if there is not even one. -/
def takeDigits (most : Nat) (cs : List Char) : Option (List Char × List Char) :=
  let ds := (cs.take most).takeWhile Char.isDigit
  if ds.isEmpty then none else some (ds, cs.drop ds.length)

theorem number_decimal (n : Nat) : number (decimal n) = n :=
  Nat.ofDigitChars_toDigits (by decide) (by decide)

@[simp] theorem length_fixed (width n : Nat) : (fixed width n).length = width := by
  induction width generalizing n with
  | zero => rfl
  | succ width ih => simp [fixed, ih]

end PickupLedger.Text
