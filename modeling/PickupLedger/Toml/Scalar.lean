import PickupLedger.Text.Digits
import PickupLedger.Time.Reading
import PickupLedger.Toml.Text
import PickupLedger.Toml.Value

/-!
# Numbers, dates and times

Between two digits of a number there may be one underscore.  A decimal number has no
leading zeros; a hexadecimal, octal or binary one has no sign; an integer fits 64 bits
and a float is no larger than the largest double.  A date is one of the calendar, a
second may be the 60th, and an offset is below 24 hours.
-/

namespace PickupLedger.Toml

/-! ## Numbers -/

/-- Digits with single underscores between them, without these. -/
def digits? (isDigit : Char → Bool) : List Char → Part (List Char)
  | c :: '_' :: rest =>
    if isDigit c then (digits? isDigit rest).map fun (ds, rest) => (c :: ds, rest) else none
  | c :: rest =>
    if isDigit c then
      match rest with
      | d :: _ =>
        if isDigit d then (digits? isDigit rest).map fun (ds, rest) => (c :: ds, rest)
        else some ([c], rest)
      | [] => some ([c], [])
    else none
  | [] => none

/-- The digits of a whole number in decimal. -/
def wholeDigits? : List Char → Part (List Char)
  | '0' :: rest => some (['0'], rest)
  | cs => digits? Char.isDigit cs

/-- The number of digits in a base. -/
def numberIn (base : Nat) (ds : List Char) : Nat :=
  ds.foldl (fun n d => n * base + (hexValue? d).getD 0) 0

/-- An integer, if it fits 64 bits. -/
def integer? (i : Int) : Option Value :=
  if -0x8000000000000000 ≤ i ∧ i ≤ 0x7fffffffffffffff then some (.integer i) else none

/-- An integer of a base behind its mark. -/
def based? (base : Nat) (isDigit : Char → Bool) (cs : List Char) : Part Value :=
  (digits? isDigit cs).bind fun (ds, rest) =>
    (integer? (numberIn base ds)).map fun v => (v, rest)

/-- The least number that no double is near. -/
def tooLarge : Nat := (1 <<< 1024) - (1 <<< 970)

/-- So many digits, moved by a power of ten, are near some double. -/
def isFinite (ds : List Char) (exponent : Int) : Bool :=
  let n := numberIn 10 ds
  let places : Int := (Text.decimal n).length + exponent
  if n = 0 ∨ places ≤ 308 then true
  else if 310 ≤ places then false
  else if 0 ≤ exponent then n * Nat.pow 10 exponent.toNat < tooLarge
  else n < tooLarge * Nat.pow 10 (-exponent).toNat

/-- The exponent of a float: a letter, perhaps a sign, and digits. -/
def exponent? : List Char → Part Int
  | c :: rest =>
    if c = 'e' ∨ c = 'E' then
      match rest with
      | '-' :: rest => (digits? Char.isDigit rest).map fun (ds, r) => (-(numberIn 10 ds : Int), r)
      | '+' :: rest => (digits? Char.isDigit rest).map fun (ds, r) => ((numberIn 10 ds : Int), r)
      | rest => (digits? Char.isDigit rest).map fun (ds, r) => ((numberIn 10 ds : Int), r)
    else none
  | [] => none

/-- The text goes on with an exponent. -/
def startsExponent : List Char → Bool
  | c :: _ => c == 'e' || c == 'E'
  | [] => false

/-- A float of so many digits, moved by a power of ten. -/
def float? (negative : Bool) (ds : List Char) (exponent : Int) : Option Value :=
  if negative || isFinite ds exponent then some .float else none

/-- A decimal number behind its sign: an integer, or with a fraction or an exponent a
float. -/
def decimal? (negative : Bool) (cs : List Char) : Option (Value × List Char) := do
  let (whole, rest) ← wholeDigits? cs
  match rest with
  | '.' :: rest =>
    let (fraction, rest) ← digits? Char.isDigit rest
    let moved : Int := -(fraction.length : Int)
    if startsExponent rest then
      let (e, rest) ← exponent? rest
      return (← float? negative (whole ++ fraction) (moved + e), rest)
    else return (← float? negative (whole ++ fraction) moved, rest)
  | rest =>
    if startsExponent rest then
      let (e, rest) ← exponent? rest
      return (← float? negative whole e, rest)
    else
      let n : Int := numberIn 10 whole
      return (← integer? (if negative then -n else n), rest)

/-- A number behind its sign, or one of the two names of floats. -/
def signed? (negative : Bool) (cs : List Char) : Part Value :=
  if cs.take 3 = ['i', 'n', 'f'] ∨ cs.take 3 = ['n', 'a', 'n'] then some (.float, cs.drop 3)
  else decimal? negative cs

/-! ## Dates and times -/

/-- Two digits of a number that is not too large. -/
def pair? (most : Nat) (cs : List Char) : Part Nat :=
  (Instant.readPair? cs).bind fun (n, rest) => if n ≤ most then some (n, rest) else none

/-- The text behind a character. -/
def mark? (c : Char) : List Char → Option (List Char)
  | d :: rest => if d = c then some rest else none
  | [] => none

/-- The text behind a time of day. -/
def clock? (cs : List Char) : Option (List Char) := do
  let (_, cs) ← pair? 23 cs
  let cs ← mark? ':' cs
  let (_, cs) ← pair? 59 cs
  let cs ← mark? ':' cs
  let (_, cs) ← pair? 60 cs
  match cs with
  | '.' :: d :: rest => return if d.isDigit then rest.dropWhile Char.isDigit else cs
  | _ => return cs

/-- The text behind an offset, if there is one. -/
def offset? : List Char → Option (List Char)
  | c :: rest =>
    if c = 'Z' ∨ c = 'z' then some rest
    else if c = '+' ∨ c = '-' then do
      let (_, rest) ← pair? 23 rest
      let rest ← mark? ':' rest
      let (_, rest) ← pair? 59 rest
      return rest
    else some (c :: rest)
  | [] => some []

/-- The text behind a date. -/
def date? (cs : List Char) : Option (List Char) := do
  let year := cs.take 4
  let cs ← mark? '-' (cs.drop 4)
  let (month, cs) ← pair? 12 cs
  let cs ← mark? '-' cs
  let (day, cs) ← pair? 31 cs
  if (Civil.mk (Text.number year) month day).Valid then return cs else none

/-- The text behind a date, with a time of day and an offset if they follow. -/
def dateAndTime? (cs : List Char) : Option (List Char) := do
  let rest ← date? cs
  match rest with
  | c :: more =>
    if c = 'T' ∨ c = 't' ∨ c = ' ' then
      match clock? more with
      | some more => offset? more
      | none => return rest
    else return rest
  | [] => return []

/-- The text starts like a date: four digits and a hyphen. -/
def startsDate (cs : List Char) : Bool :=
  (cs.take 4).length == 4 && (cs.take 4).all Char.isDigit && (cs.drop 4).head? == some '-'

/-- The text starts like a time of day: two digits and a colon. -/
def startsClock (cs : List Char) : Bool :=
  (cs.take 2).length == 2 && (cs.take 2).all Char.isDigit && (cs.drop 2).head? == some ':'

/-! ## Scalars -/

/-- A value that is neither an array nor a table. -/
def scalar? (cs : List Char) : Part Value :=
  match cs with
  | '\x22' :: _ | '\'' :: _ => (string? cs).map fun (s, rest) => (.string (String.ofList s), rest)
  | 't' :: 'r' :: 'u' :: 'e' :: rest => some (.bool true, rest)
  | 'f' :: 'a' :: 'l' :: 's' :: 'e' :: rest => some (.bool false, rest)
  | '0' :: 'x' :: rest => based? 16 (fun c => (hexValue? c).isSome) rest
  | '0' :: 'o' :: rest => based? 8 (fun c => '0' ≤ c && c ≤ '7') rest
  | '0' :: 'b' :: rest => based? 2 (fun c => c == '0' || c == '1') rest
  | '+' :: rest => signed? false rest
  | '-' :: rest => signed? true rest
  | cs =>
    if startsDate cs then (dateAndTime? cs).map fun rest => (.moment, rest)
    else if startsClock cs then (clock? cs).map fun rest => (.moment, rest)
    else signed? false cs

end PickupLedger.Toml
