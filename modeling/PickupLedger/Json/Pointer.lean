import PickupLedger.Json.Value
import PickupLedger.Text.Pieces

/-!
# Pointers into a value

A JSON pointer is a path of reference tokens, each behind a slash; in a token `~1` is a
slash and `~0` a tilde.  A token names a member of an object, or counts the items of an
array from zero, without leading zeros.  The empty pointer is the value itself.
-/

namespace PickupLedger.Json

/-- A token with its marks resolved. -/
def unmark : List Char → List Char
  | '~' :: '1' :: cs => '/' :: unmark cs
  | '~' :: '0' :: cs => '~' :: unmark cs
  | c :: cs => c :: unmark cs
  | [] => []

/-- The tokens of a pointer; a pointer that is not empty starts with a slash. -/
def pointerTokens? (pointer : String) : Option (List String) :=
  match pointer.toList with
  | [] => some []
  | '/' :: cs => some ((Text.pieces '/' cs).map fun token => String.ofList (unmark token))
  | _ => none

/-- The position that a token counts. -/
def tokenIndex? (token : String) : Option Nat :=
  match token.toList with
  | [] => none
  | ['0'] => some 0
  | '0' :: _ => none
  | cs => if cs.all Char.isDigit then some (Text.number cs) else none

/-- The part of a value under one token. -/
def child? (token : String) : Json → Option Json
  | .object members => (members.find? fun m => m.1 = token).map Prod.snd
  | .array items => (tokenIndex? token).bind fun i => items[i]?
  | _ => none

/-- The part of a value under a path of tokens. -/
def descend? : List String → Json → Option Json
  | [], v => some v
  | token :: tokens, v => (v.child? token).bind (descend? tokens)

/-- **The part of a value** that a pointer names. -/
def at? (pointer : String) (v : Json) : Option Json :=
  (pointerTokens? pointer).bind fun tokens => descend? tokens v

end PickupLedger.Json
