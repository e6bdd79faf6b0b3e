/-!
# Integers as they are typed

An integer that someone has typed is digits behind at most one sign, within two bounds.
Where there are no negative numbers, only a plus counts as a sign.  Of two faults the
first character that shows one decides.
-/

namespace PickupLedger.Text

/-- Why a text is no integer. -/
inductive IntegerFault where
  | empty
  | badDigit
  | tooLarge
  | tooSmall
  deriving DecidableEq, Repr

/-- The words of a fault. -/
def IntegerFault.message : IntegerFault → String
  | .empty => "cannot parse integer from empty string"
  | .badDigit => "invalid digit found in string"
  | .tooLarge => "number too large to fit in target type"
  | .tooSmall => "number too small to fit in target type"

/-- The number that more digits make of a number, up to a bound. -/
def moreDigits (most : Nat) : Nat → List Char → Except IntegerFault Nat
  | n, [] => .ok n
  | n, c :: cs =>
    if c.isDigit then
      let m := n * 10 + (c.toNat - 48)
      if m ≤ most then moreDigits most m cs else .error .tooLarge
    else .error .badDigit

/-- **A natural number up to a bound**, with or without a plus. -/
def readNatural (most : Nat) (text : String) : Except IntegerFault Nat :=
  match text.toList with
  | [] => .error .empty
  | ['+'] => .error .badDigit
  | '+' :: cs => moreDigits most 0 cs
  | cs => moreDigits most 0 cs

/-- **An integer from `-most - 1` to `most`**, with or without a sign. -/
def readInteger (most : Nat) (text : String) : Except IntegerFault Int :=
  match text.toList with
  | ['-'] => .error .badDigit
  | '-' :: cs =>
    match moreDigits (most + 1) 0 cs with
    | .ok n => .ok (-n)
    | .error .tooLarge => .error .tooSmall
    | .error fault => .error fault
  | _ => (readNatural most text).map fun n => (n : Int)

end PickupLedger.Text
