/-!
# TOML values

What a TOML document holds.  Of a float, and of a date or time, only its kind is kept:
no setting has a value of these kinds.
-/

namespace PickupLedger.Toml

/-- **A TOML value.** -/
inductive Value where
  | string (value : String)
  | integer (value : Int)
  | float
  | bool (value : Bool)
  /-- A date, a time of day, or both. -/
  | moment
  | array (items : List Value)
  | table (members : List (String × Value))
  deriving Inhabited, Repr

namespace Value

/-- The value under a key of a list of members. -/
def lookup? (members : List (String × Value)) (key : String) : Option Value :=
  (members.find? fun m => m.1 = key).map Prod.snd

end Value
end PickupLedger.Toml
