/-!
# Pieces between separators

`pieces sep` cuts a list at every separator; there is always one piece more than there
are separators.
-/

namespace PickupLedger.Text

variable {α : Type} [DecidableEq α]

/-- **The pieces of a list** between its separators. -/
def pieces (sep : α) : List α → List (List α)
  | [] => [[]]
  | x :: xs =>
    match pieces sep xs with
    | piece :: rest => if x = sep then [] :: piece :: rest else (x :: piece) :: rest
    | [] => [[x]]

end PickupLedger.Text
