/-!
# Spacing, strings and keys

Characters below the space, and the delete character, stand in no comment and no
string, tabs apart.  A line ends in a line feed, with or without a carriage return in
front of it.

A string is written in one of four ways: in double quotes, where a backslash escapes;
in single quotes, where nothing does; and either of them tripled, which lets the string
run over lines.  A line break right behind three quotes is left out, and so is all
spacing behind a backslash at the end of a line.  One or two quotes inside a tripled
string stand for themselves, also in front of the closing three.
-/

namespace PickupLedger.Toml

/-- A part that has been read, with the rest of the text. -/
abbrev Part (α : Type) := Option (α × List Char)

/-! ## Spacing -/

/-- A space or a tab. -/
def isSpacing (c : Char) : Bool := c == ' ' || c == '\t'

/-- A character that may stand in a comment. -/
def isVisible (c : Char) : Bool := c == '\t' || (32 ≤ c.toNat && c.toNat ≠ 127)

/-- The text behind spaces and tabs. -/
def skipSpacing (cs : List Char) : List Char := cs.dropWhile isSpacing

/-- The text behind a line break. -/
def lineBreak? : List Char → Option (List Char)
  | '\n' :: rest => some rest
  | '\r' :: '\n' :: rest => some rest
  | _ => none

/-- The text behind the end of a line: spacing, perhaps a comment, and a line break or
the end of the text. -/
def endOfLine? (cs : List Char) : Option (List Char) :=
  let cs :=
    match skipSpacing cs with
    | '#' :: rest => rest.dropWhile isVisible
    | cs => cs
  if cs.isEmpty then some [] else lineBreak? cs

/-- The text behind spacing, line breaks and comments. -/
def skipLines (comment : Bool) : List Char → List Char
  | '\r' :: '\n' :: rest => skipLines false rest
  | '\n' :: rest => skipLines false rest
  | c :: rest =>
    if comment then (if isVisible c then skipLines true rest else c :: rest)
    else if isSpacing c then skipLines false rest
    else if c = '#' then skipLines true rest
    else c :: rest
  | [] => []

/-- The text behind spacing and line breaks. -/
def skipBreaks : List Char → List Char
  | '\r' :: '\n' :: rest => skipBreaks rest
  | c :: rest => if isSpacing c || c == '\n' then skipBreaks rest else c :: rest
  | [] => []

/-! ## Strings -/

/-- The value of a hexadecimal digit. -/
def hexValue? (c : Char) : Option Nat :=
  if '0' ≤ c ∧ c ≤ '9' then some (c.toNat - 48)
  else if 'a' ≤ c ∧ c ≤ 'f' then some (c.toNat - 87)
  else if 'A' ≤ c ∧ c ≤ 'F' then some (c.toNat - 55)
  else none

/-- A number of so many hexadecimal digits. -/
def hexNumber? : Nat → Nat → List Char → Part Nat
  | 0, value, cs => some (value, cs)
  | _ + 1, _, [] => none
  | n + 1, value, c :: cs => (hexValue? c).bind fun d => hexNumber? n (value * 16 + d) cs

/-- The character of a code point. -/
def codePoint? (n : Nat) : Option Char := if n.isValidChar then some (Char.ofNat n) else none

/-- The character behind a backslash. -/
def escaped? : List Char → Part Char
  | 'b' :: rest => some ('\x08', rest)
  | 't' :: rest => some ('\t', rest)
  | 'n' :: rest => some ('\n', rest)
  | 'f' :: rest => some ('\x0c', rest)
  | 'r' :: rest => some ('\r', rest)
  | '\x22' :: rest => some ('\x22', rest)
  | '\x5c' :: rest => some ('\x5c', rest)
  | 'u' :: rest =>
    (hexNumber? 4 0 rest).bind fun (n, rest) => (codePoint? n).map fun c => (c, rest)
  | 'U' :: rest =>
    (hexNumber? 8 0 rest).bind fun (n, rest) => (codePoint? n).map fun c => (c, rest)
  | _ => none

/-- The characters of a string up to its closing quote; those read so far come last
first, and each step reads at least one character of `fuel`. -/
def basicRest? : Nat → List Char → List Char → Part (List Char)
  | 0, _, _ => none
  | _, _, [] => none
  | fuel + 1, before, c :: rest =>
    if c = '\x22' then some (before.reverse, rest)
    else if c = '\x5c' then (escaped? rest).bind fun (e, rest) => basicRest? fuel (e :: before) rest
    else if isVisible c then basicRest? fuel (c :: before) rest
    else none

/-- What a run of quotes inside a tripled string means: at most two are characters of it,
the last three of up to five end it. -/
inductive Quotes where
  | inside
  /-- The string ends, and has so many of the quotes in it. -/
  | closing (own : Nat)
  | tooMany

/-- The meaning of a number of quotes. -/
def Quotes.ofCount (n : Nat) : Quotes :=
  if n < 3 then .inside else if n ≤ 5 then .closing (n - 3) else .tooMany

/-- The characters of a tripled string up to its closing quotes; `escapes` says whether
a backslash is one. -/
def tripledRest? (quote : Char) (escapes : Bool) : Nat → List Char → List Char → Part (List Char)
  | 0, _, _ => none
  | _, _, [] => none
  | fuel + 1, before, c :: rest =>
    if c = quote then
      let more := rest.takeWhile (· = quote)
      match Quotes.ofCount (more.length + 1) with
      | .inside => tripledRest? quote escapes fuel (c :: before) rest
      | .closing own =>
        some (before.reverse ++ List.replicate own quote, rest.drop more.length)
      | .tooMany => none
    else if escapes && c = '\x5c' then
      match lineBreak? (skipSpacing rest) with
      | some rest => tripledRest? quote escapes fuel before (skipBreaks rest)
      | none => (escaped? rest).bind fun (e, rest) => tripledRest? quote escapes fuel (e :: before) rest
    else
      match lineBreak? (c :: rest) with
      | some rest => tripledRest? quote escapes fuel ('\n' :: before) rest
      | none => if isVisible c then tripledRest? quote escapes fuel (c :: before) rest else none

/-- A string in single quotes behind the first of them. -/
def literalRest? (cs : List Char) : Part (List Char) :=
  let inner := cs.takeWhile fun c => isVisible c && c ≠ '\''
  match cs.drop inner.length with
  | '\'' :: rest => some (inner, rest)
  | _ => none

/-- A tripled string behind its opening quotes. -/
def tripled? (quote : Char) (escapes : Bool) (cs : List Char) : Part (List Char) :=
  let cs := (lineBreak? cs).getD cs
  tripledRest? quote escapes cs.length [] cs

/-- A string on one line. -/
def line? : List Char → Part (List Char)
  | '\x22' :: rest => basicRest? rest.length [] rest
  | '\'' :: rest => literalRest? rest
  | _ => none

/-- **A string** in any of the four ways. -/
def string? : List Char → Part (List Char)
  | '\x22' :: '\x22' :: '\x22' :: rest => tripled? '\x22' true rest
  | '\'' :: '\'' :: '\'' :: rest => tripled? '\'' false rest
  | cs => line? cs

/-! ## Keys -/

/-- A character of a key without quotes. -/
def isBare (c : Char) : Bool := c.isAlphanum || c == '_' || c == '-'

/-- One key. -/
def key? (cs : List Char) : Part String :=
  match cs with
  | '\x22' :: _ | '\'' :: _ => (line? cs).map fun (key, rest) => (String.ofList key, rest)
  | _ =>
    let key := cs.takeWhile isBare
    if key.isEmpty then none else some (String.ofList key, cs.drop key.length)

/-- Keys with points between them, and the spacing around them. -/
def keyPath? : Nat → List Char → Part (List String)
  | 0, _ => none
  | fuel + 1, cs =>
    (key? (skipSpacing cs)).bind fun (key, rest) =>
      match skipSpacing rest with
      | '.' :: rest => (keyPath? fuel rest).map fun (keys, rest) => (key :: keys, rest)
      | rest => some ([key], rest)

end PickupLedger.Toml
