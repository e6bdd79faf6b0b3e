import PickupLedger.Json.Numeral

/-!
# JSON values and their text

`Json` is a value of RFC 8259; the members of an object keep their order and
may repeat a key.  `Json.chars` is its compact text.  In a string a quote and a
backslash carry a backslash, and a control character is written by its letter or
its number; all other characters stand for themselves.
-/

namespace PickupLedger

/-- **A JSON value.** -/
inductive Json where
  | null
  | bool (value : Bool)
  | number (value : Json.Numeral)
  | string (value : String)
  | array (items : List Json)
  | object (members : List (String × Json))
  deriving Repr, Inhabited

namespace Json

/-- An integer. -/
def int (i : Int) : Json := .number (.ofInt i)

/-- A natural number. -/
def nat (n : Nat) : Json := int n

/-- A value, or null for none. -/
def ofOption {α : Type} (f : α → Json) : Option α → Json
  | some a => f a
  | none => .null

/-- An array of values. -/
def ofList {α : Type} (f : α → Json) (xs : List α) : Json := .array (xs.map f)

/-! ## Writing -/

/-- One character inside a string. -/
def escape (c : Char) : List Char :=
  if c = '\x22' then ['\x5c', '\x22']
  else if c = '\x5c' then ['\x5c', '\x5c']
  else if c = '\x08' then ['\x5c', 'b']
  else if c = '\x0c' then ['\x5c', 'f']
  else if c = '\n' then ['\x5c', 'n']
  else if c = '\r' then ['\x5c', 'r']
  else if c = '\t' then ['\x5c', 't']
  else if c.toNat < 0x20 then
    '\x5c' :: 'u' :: '0' :: '0' :: digit16 (c.toNat / 16) :: [digit16 (c.toNat % 16)]
  else [c]
where
  /-- A lower-case hexadecimal digit. -/
  digit16 (n : Nat) : Char := if n < 10 then Char.ofNat (48 + n) else Char.ofNat (87 + n)

/-- A string in quotes. -/
def stringChars (s : String) : List Char :=
  '\x22' :: (s.toList.flatMap escape ++ ['\x22'])

/-- A number as it is spelled. -/
def Numeral.chars (n : Numeral) : List Char :=
  let sign := if n.negative then ['-'] else []
  let fraction :=
    if n.fraction.isEmpty then [] else '.' :: n.fraction.map fun d => Text.digit d.val
  let exponent :=
    match n.exponent with
    | none => []
    | some e => 'e' :: ((if e < 0 then ['-'] else []) ++ Text.decimal e.natAbs)
  sign ++ Text.decimal n.whole ++ fraction ++ exponent

mutual

/-- The text of a value in front of more text. -/
def write : Json → List Char → List Char
  | .null, rest => 'n' :: 'u' :: 'l' :: 'l' :: rest
  | .bool true, rest => 't' :: 'r' :: 'u' :: 'e' :: rest
  | .bool false, rest => 'f' :: 'a' :: 'l' :: 's' :: 'e' :: rest
  | .number n, rest => n.chars ++ rest
  | .string s, rest => stringChars s ++ rest
  | .array [], rest => '[' :: ']' :: rest
  | .array (v :: vs), rest => '[' :: write v (writeItems vs rest)
  | .object [], rest => '\x7b' :: '\x7d' :: rest
  | .object ((k, v) :: ms), rest => '\x7b' :: (stringChars k ++ ':' :: write v (writeMembers ms rest))

/-- The further items of an array, with the bracket behind them. -/
def writeItems : List Json → List Char → List Char
  | [], rest => ']' :: rest
  | v :: vs, rest => ',' :: write v (writeItems vs rest)

/-- The further members of an object, with the brace behind them. -/
def writeMembers : List (String × Json) → List Char → List Char
  | [], rest => '\x7d' :: rest
  | (k, v) :: ms, rest => ',' :: (stringChars k ++ ':' :: write v (writeMembers ms rest))

end

/-- **The compact text of a value.** -/
def chars (v : Json) : List Char := write v []

/-- The compact text as a string. -/
def text (v : Json) : String := String.ofList v.chars

end Json
end PickupLedger
