import PickupLedger.Text.Unprintable

/-!
# Quoted text

Messages quote a text between double quotes.  Inside, a quote and a backslash carry
a backslash, tab, line feed, carriage return and null have a letter, and every
other character without a mark of its own is written by its number in braces.
-/

namespace PickupLedger.Text

/-- One character inside a quotation. -/
def quotedChar (c : Char) : List Char :=
  if c = '\x22' then ['\x5c', '\x22']
  else if c = '\x5c' then ['\x5c', '\x5c']
  else if c = '\n' then ['\x5c', 'n']
  else if c = '\r' then ['\x5c', 'r']
  else if c = '\t' then ['\x5c', 't']
  else if c = '\x00' then ['\x5c', '0']
  else if isUnprintable c then
    '\x5c' :: 'u' :: '\x7b' :: (Nat.toDigits 16 c.toNat ++ ['\x7d'])
  else [c]

/-- **A text in double quotes.** -/
def quoted (s : String) : String :=
  String.ofList ('\x22' :: (s.toList.flatMap quotedChar ++ ['\x22']))

end PickupLedger.Text
