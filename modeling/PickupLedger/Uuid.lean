/-!
# Identifiers

A `Uuid` is a number of 128 bits.  It is written as 32 lower-case hexadecimal
digits in groups of 8, 4, 4, 4 and 12 with hyphens between them (`Uuid.text`).
`Uuid.read?` accepts that form with digits of either case, the 32 digits alone,
the hyphenated form in braces, and the hyphenated form after `urn:uuid:`; nothing
else is an identifier.  Identifiers are compared as numbers, which is the order of
their sixteen bytes and of their written forms.
-/

namespace PickupLedger

/-- **An identifier** of 128 bits. -/
structure Uuid where
  value : Nat
  value_lt : value < 1 <<< 128
  deriving DecidableEq, Repr

namespace Uuid

instance : Inhabited Uuid := ⟨⟨0, by decide⟩⟩

@[ext] theorem ext {a b : Uuid} (h : a.value = b.value) : a = b := by
  cases a; cases b; simp_all

/-- The identifier made of the last 128 bits of a number. -/
def ofNat (n : Nat) : Uuid :=
  ⟨n % (1 <<< 128), Nat.mod_lt _ (by decide)⟩

/-- The order of identifiers. -/
def le (a b : Uuid) : Bool := a.value ≤ b.value

/-! ## Generated identifiers -/

/-- The least identifier that is generated: of version 7, from the year 2025. -/
def firstGenerated : Nat := 0x01955000000070008000000000000000

/-- **The generated identifier of a number**; up to `2 ^ 62` of them grow with it. -/
def generated (n : Nat) : Uuid := ofNat (firstGenerated + n % (1 <<< 62))

theorem generated_lt {m n : Nat} (h : m < n) (hn : n < 1 <<< 62) :
    (generated m).value < (generated n).value := by
  have : firstGenerated = 0x01955000000070008000000000000000 := rfl
  simp only [generated, ofNat, Nat.one_shiftLeft] at hn ⊢
  omega

/-- The identifier of version 4 that is made of random bits. -/
def random (bits : Nat) : Uuid :=
  ofNat (((bits >>> 80) <<< 80) + ((0x4000 + (bits >>> 64) % 0x1000) <<< 64) +
    ((1 <<< 63) + bits % (1 <<< 62)))

/-! ## Writing -/

/-- A lower-case hexadecimal digit. -/
def hexDigit (n : Nat) : Char :=
  if n % 16 < 10 then Char.ofNat (48 + n % 16) else Char.ofNat (87 + n % 16)

/-- The last `width` hexadecimal digits of a number. -/
def hexDigits : Nat → Nat → List Char
  | 0, _ => []
  | width + 1, n => hexDigits width (n / 16) ++ [hexDigit n]

/-- **The written form**: five groups of hexadecimal digits joined by hyphens. -/
def chars (u : Uuid) : List Char :=
  hexDigits 8 (u.value >>> 96) ++ '-' :: hexDigits 4 (u.value >>> 80) ++
    '-' :: hexDigits 4 (u.value >>> 64) ++ '-' :: hexDigits 4 (u.value >>> 48) ++
    '-' :: hexDigits 12 u.value

/-- The written form as a string. -/
def text (u : Uuid) : String := String.ofList u.chars

instance : ToString Uuid := ⟨text⟩

/-! ## Reading -/

/-- The value of a hexadecimal digit of either case. -/
def hexValue? (c : Char) : Option Nat :=
  if '0' ≤ c ∧ c ≤ '9' then some (c.toNat - 48)
  else if 'a' ≤ c ∧ c ≤ 'f' then some (c.toNat - 87)
  else if 'A' ≤ c ∧ c ≤ 'F' then some (c.toNat - 55)
  else none

/-- The number that a text of hexadecimal digits stands for, after `n`. -/
def readHex? : List Char → Nat → Option Nat
  | [], n => some n
  | c :: cs, n =>
    match hexValue? c with
    | some d => readHex? cs (16 * n + d)
    | none => none

/-- The 32 hexadecimal digits of an identifier. -/
def readPlain? (cs : List Char) : Option Uuid :=
  if cs.length = 32 then (readHex? cs 0).map ofNat else none

/-- The groups of the hyphenated form without its hyphens; `none` where a hyphen
is missing. -/
def dropHyphens? (cs : List Char) : Option (List Char) :=
  if cs.length = 36 ∧ cs[8]? = some '-' ∧ cs[13]? = some '-' ∧ cs[18]? = some '-' ∧
      cs[23]? = some '-' then
    some (cs.take 8 ++ (cs.drop 9).take 4 ++ (cs.drop 14).take 4 ++ (cs.drop 19).take 4 ++
      cs.drop 24)
  else none

/-- The hyphenated form. -/
def readHyphenated? (cs : List Char) : Option Uuid :=
  (dropHyphens? cs).bind readPlain?

/-- The text behind `urn:uuid:`, written in any case. -/
def dropUrn? (cs : List Char) : Option (List Char) :=
  if (cs.take 9).map Char.toLower = "urn:uuid:".toList then some (cs.drop 9) else none

/-- The text between braces. -/
def dropBraces? (cs : List Char) : Option (List Char) :=
  if cs.length = 38 ∧ cs.head? = some '\x7b' ∧ cs.getLast? = some '\x7d' then
    some ((cs.drop 1).take 36)
  else none

/-- **Reading an identifier** in any of its four forms. -/
def read? (cs : List Char) : Option Uuid :=
  if cs.length = 32 then readPlain? cs
  else if cs.length = 36 then readHyphenated? cs
  else if cs.length = 38 then (dropBraces? cs).bind readHyphenated?
  else if cs.length = 45 then (dropUrn? cs).bind readHyphenated?
  else none

/-- Reading an identifier from a string. -/
def ofString? (s : String) : Option Uuid := read? s.toList

end Uuid
end PickupLedger
