/-!
# Blank characters

Unicode gives 25 characters the property White_Space.  A reader that allows
spacing between the parts of a text skips any run of them (`dropBlanks`), and a
setting made of nothing else counts as empty (`isBlankText`).
-/

namespace PickupLedger.Text

/-- **A blank**: a character with the Unicode property White_Space. -/
def isBlank (c : Char) : Bool :=
  let n := c.toNat
  (9 ≤ n && n ≤ 13) || n == 0x20 || n == 0x85 || n == 0xA0 || n == 0x1680 ||
    (0x2000 ≤ n && n ≤ 0x200A) || n == 0x2028 || n == 0x2029 || n == 0x202F ||
    n == 0x205F || n == 0x3000

/-- The text from its first character that is not a blank. -/
def dropBlanks (cs : List Char) : List Char :=
  cs.dropWhile isBlank

/-- Nothing but blanks, or nothing at all. -/
def isBlankText (s : String) : Bool :=
  s.toList.all isBlank

theorem dropBlanks_cons_of_not {c : Char} (cs : List Char) (h : isBlank c = false) :
    dropBlanks (c :: cs) = c :: cs := by
  simp [dropBlanks, h]

end PickupLedger.Text
