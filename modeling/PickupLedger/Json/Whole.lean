import PickupLedger.Json.Draft

/-!
# Whole values

A draft that is nowhere broken, and all of whose strings are text, is a JSON value
(`Draft.whole?`).  `Json.read?` reads a text that is one value and nothing else.
-/

namespace PickupLedger.Json

namespace Draft

mutual

/-- **The value of a draft** that nothing is missing from. -/
def whole? : Draft → Option Json
  | .broken => none
  | .null => some .null
  | .bool b => some (.bool b)
  | .number n => some (.number n)
  | .string s => s.map .string
  | .array items closed => if closed then (wholeItems? items).map .array else none
  | .object members closed => if closed then (wholeMembers? members).map .object else none

/-- The values of items that nothing is missing from. -/
def wholeItems? : List Draft → Option (List Json)
  | [] => some []
  | d :: ds =>
    match d.whole?, wholeItems? ds with
    | some v, some vs => some (v :: vs)
    | _, _ => none

/-- The members of an object that nothing is missing from. -/
def wholeMembers? : List (Option String × Draft) → Option (List (String × Json))
  | [] => some []
  | (key, d) :: ms =>
    match key, d.whole?, wholeMembers? ms with
    | some k, some v, some vs => some ((k, v) :: vs)
    | _, _, _ => none

end

end Draft

/-- **The value of a text** that is one JSON value, with spacing around it at most. -/
def read? (text : String) : Option Json :=
  let document := Draft.ofString text
  if document.clean then document.root.whole? else none

end PickupLedger.Json
