import PickupLedger.Text.Pieces
import PickupLedger.Text.Utf8

/-!
# Percent encoding

In a path or a query a byte may be written as `%` and two hexadecimal digits; a `%`
without them stands for itself.  A query is a list of names and values with `&`
between them and `=` inside, in which a plus is a space (`queryPairs`).
-/

namespace PickupLedger.Http

open Text

/-- The value of a byte that is a hexadecimal digit. -/
def hexByte? (b : UInt8) : Option UInt8 :=
  if 48 ≤ b ∧ b ≤ 57 then some (b - 48)
  else if 97 ≤ b ∧ b ≤ 102 then some (b - 87)
  else if 65 ≤ b ∧ b ≤ 70 then some (b - 55)
  else none

/-- The bytes that percent-encoded bytes stand for. -/
def percentDecode : List UInt8 → List UInt8
  | 37 :: a :: b :: rest =>
    match hexByte? a, hexByte? b with
    | some x, some y => (x * 16 + y) :: percentDecode rest
    | _, _ => 37 :: percentDecode (a :: b :: rest)
  | b :: rest => b :: percentDecode rest
  | [] => []

/-- The text of a path segment, if it is UTF-8. -/
def segmentText? (s : String) : Option String := Utf8.read? (percentDecode (Utf8.bytes s))

/-- The text of a name or value of a query. -/
def formText (bytes : List UInt8) : String :=
  Utf8.readLossy (percentDecode (bytes.map fun b => if b = 43 then 32 else b))

/-- **The names and values of a query**, in their order. -/
def queryPairs (query : String) : List (String × String) :=
  ((pieces 38 (Utf8.bytes query)).filter fun part => !part.isEmpty).map fun part =>
    (formText (part.takeWhile (· ≠ 61)), formText ((part.dropWhile (· ≠ 61)).drop 1))

end PickupLedger.Http
