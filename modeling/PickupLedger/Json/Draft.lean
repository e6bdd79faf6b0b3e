import PickupLedger.Json.Value
import PickupLedger.Text.Utf8

/-!
# Reading a JSON text as far as it goes

A consumer that reads a text from left to right and stops at the first problem may
stop in front of a syntax error, because a value before it is already wrong.  A
`Draft` keeps what such a consumer can see: the values read so far, and the place
where the text breaks off.

Values are `broken` where no value could be read; arrays and objects that were not
closed say so.  Everything before such a place is complete and nothing of the text
after it is kept.  Two kinds of scalars are well formed and yet stand for nothing: a
string with half of a surrogate pair (`string none`), and a number too large for a
double; they matter only to a consumer that wants their value.

`Draft.read` is a machine with a stack of the arrays and objects that are open, so
the depth of a text is not limited.

Bytes that are no text are read the same way (`Draft.ofBytes`): what is not UTF-8 is no
token, and within a string it counts as half of a surrogate pair does.
-/

namespace PickupLedger.Json

/-- **What can be seen of a JSON text** up to its first syntax error. -/
inductive Draft where
  /-- No value could be read here. -/
  | broken
  | null
  | bool (value : Bool)
  | number (value : Numeral)
  /-- A string; `none` if it has half of a surrogate pair. -/
  | string (value : Option String)
  | array (items : List Draft) (closed : Bool)
  | object (members : List (Option String × Draft)) (closed : Bool)
  deriving Inhabited

/-- A text that has been read. -/
structure Document where
  root : Draft
  /-- Nothing but spacing follows the value. -/
  clean : Bool

namespace Draft

/-! ## Tokens -/

/-- Spacing between tokens. -/
def isSpacing (c : Char) : Bool := c == ' ' || c == '\n' || c == '\t' || c == '\r'

/-- The text from its next token. -/
def skip (cs : List Char) : List Char := cs.dropWhile isSpacing

/-- The value of a hexadecimal digit of either case. -/
def hexValue? (c : Char) : Option Nat :=
  if '0' ≤ c ∧ c ≤ '9' then some (c.toNat - 48)
  else if 'a' ≤ c ∧ c ≤ 'f' then some (c.toNat - 87)
  else if 'A' ≤ c ∧ c ≤ 'F' then some (c.toNat - 55)
  else none

/-- The number behind `\u`: four hexadecimal digits. -/
def readUnit? : List Char → Option (Nat × List Char)
  | a :: b :: c :: d :: rest => do
    let a ← hexValue? a
    let b ← hexValue? b
    let c ← hexValue? c
    let d ← hexValue? d
    some (((a * 16 + b) * 16 + c) * 16 + d, rest)
  | _ => none

/-- The second half of a surrogate pair. -/
def readLow? : List Char → Option (Nat × List Char)
  | '\x5c' :: 'u' :: rest =>
    match readUnit? rest with
    | some (n, rest) => if 0xDC00 ≤ n ∧ n ≤ 0xDFFF then some (n, rest) else none
    | none => none
  | _ => none

/-- What a backslash and the text behind it stand for; no character for half of a
surrogate pair. -/
def readEscape? : List Char → Option (Option Char × List Char)
  | 'u' :: rest =>
    match readUnit? rest with
    | none => none
    | some (n, rest) =>
      if 0xD800 ≤ n ∧ n ≤ 0xDBFF then
        match readLow? rest with
        | some (m, rest) => some (some (Char.ofNat (0x10000 + (n - 0xD800) * 0x400 + (m - 0xDC00))), rest)
        | none => some (none, rest)
      else if 0xDC00 ≤ n ∧ n ≤ 0xDFFF then some (none, rest)
      else some (some (Char.ofNat n), rest)
  | c :: rest =>
    if c = '\x22' ∨ c = '\x5c' ∨ c = '/' then some (some c, rest)
    else if c = 'b' then some (some '\x08', rest)
    else if c = 'f' then some (some '\x0c', rest)
    else if c = 'n' then some (some '\n', rest)
    else if c = 'r' then some (some '\r', rest)
    else if c = 't' then some (some '\t', rest)
    else none
  | [] => none

theorem length_of_readUnit? {cs rest : List Char} {n : Nat} (h : readUnit? cs = some (n, rest)) :
    rest.length < cs.length := by
  unfold readUnit? at h
  split at h
  · simp only [Option.bind_eq_bind, Option.bind_eq_some_iff, Option.some.injEq,
      Prod.mk.injEq] at h
    obtain ⟨_, _, _, _, _, _, _, _, _, rfl⟩ := h
    simp only [List.length_cons]; omega
  · simp at h

theorem length_of_readLow? {cs rest : List Char} {n : Nat} (h : readLow? cs = some (n, rest)) :
    rest.length < cs.length := by
  unfold readLow? at h
  split at h
  · split at h
    · next h' =>
      have := length_of_readUnit? h'
      split at h
      · obtain ⟨_, rfl⟩ := by simpa using h
        simp only [List.length_cons]; omega
      · simp at h
    · simp at h
  · simp at h

theorem length_of_readEscape? {cs rest : List Char} {c : Option Char}
    (h : readEscape? cs = some (c, rest)) : rest.length < cs.length := by
  unfold readEscape? at h
  split at h
  · split at h
    · simp at h
    · next h' =>
      have := length_of_readUnit? h'
      split at h
      · split at h
        · next h'' =>
          have := length_of_readLow? h''
          obtain ⟨_, rfl⟩ := by simpa using h
          simp only [List.length_cons]; omega
        · obtain ⟨_, rfl⟩ := by simpa using h
          simp only [List.length_cons]; omega
      · split at h <;>
        · obtain ⟨_, rfl⟩ := by simpa using h
          simp only [List.length_cons]; omega
  · split at h
    · obtain ⟨_, rfl⟩ := by simpa using h
      simp
    · repeat' split at h
      all_goals first
        | (obtain ⟨_, rfl⟩ := by simpa using h
           simp)
        | simp at h
  · simp at h

/-- The rest of a string behind its opening quote: the characters before it come
last first, and `whole` says that none of them was half of a pair. -/
def readChars? (cs before : List Char) (whole : Bool) :
    Option (Option String × List Char) :=
  match cs with
  | [] => none
  | c :: rest =>
    if c = '\x22' then some (if whole then some (String.ofList before.reverse) else none, rest)
    else if c = '\x5c' then
      match h : readEscape? rest with
      | some (some e, rest') =>
        have := length_of_readEscape? h
        readChars? rest' (e :: before) whole
      | some (none, rest') =>
        have := length_of_readEscape? h
        readChars? rest' before false
      | none => none
    else if c.toNat < 0x20 then none
    else readChars? rest (c :: before) whole
  termination_by cs.length
  decreasing_by all_goals simp only [List.length_cons]; omega

/-- A string token behind its opening quote. -/
def readString? (cs : List Char) : Option (Option String × List Char) :=
  readChars? cs [] true

/-- The run of digits at the front of a text. -/
def digits (cs : List Char) : List Char := cs.takeWhile Char.isDigit

/-- The whole part of a number: no digit may follow a zero at its front. -/
def readWhole? (cs : List Char) : Option (Nat × List Char) :=
  match digits cs with
  | [] => none
  | '0' :: _ :: _ => none
  | ds => some (Text.number ds, cs.drop ds.length)

/-- The digits behind a point, if there is one. -/
def readFraction? (cs : List Char) : Option (List (Fin 10) × List Char) :=
  match cs with
  | '.' :: rest =>
    let ds := digits rest
    if ds.isEmpty then none
    else some (ds.map fun c => Fin.ofNat 10 (c.toNat - 48), rest.drop ds.length)
  | _ => some ([], cs)

/-- The sign of an exponent; without one it is not negative. -/
def takeSign : List Char → Bool × List Char
  | '+' :: rest => (false, rest)
  | '-' :: rest => (true, rest)
  | rest => (false, rest)

/-- The exponent of a number, if there is one. -/
def readExponent? (cs : List Char) : Option (Option Int × List Char) :=
  match cs with
  | c :: rest =>
    if c = 'e' ∨ c = 'E' then
      let signed := takeSign rest
      let ds := digits signed.2
      if ds.isEmpty then none
      else
        let n : Int := Text.number ds
        some (some (if signed.1 then -n else n), signed.2.drop ds.length)
    else some (none, cs)
  | [] => some (none, cs)

/-- A number token. -/
def readNumeral? (cs : List Char) : Option (Numeral × List Char) := do
  let (negative, cs) := match cs with
    | '-' :: rest => (true, rest)
    | _ => (false, cs)
  let (whole, cs) ← readWhole? cs
  let (fraction, cs) ← readFraction? cs
  let (exponent, cs) ← readExponent? cs
  some (⟨negative, whole, fraction, exponent⟩, cs)

/-- A scalar token. -/
def readScalar? (cs : List Char) : Option (Draft × List Char) :=
  match cs with
  | '\x22' :: rest => (readString? rest).map fun (s, r) => (.string s, r)
  | 'n' :: 'u' :: 'l' :: 'l' :: rest => some (.null, rest)
  | 't' :: 'r' :: 'u' :: 'e' :: rest => some (.bool true, rest)
  | 'f' :: 'a' :: 'l' :: 's' :: 'e' :: rest => some (.bool false, rest)
  | _ => (readNumeral? cs).map fun (n, r) => (.number n, r)

/-! ## The machine -/

/-- An array or object that is open; what it holds so far comes last first. -/
inductive Frame where
  | array (before : List Draft)
  | member (before : List (Option String × Draft)) (key : Option String)

/-- What the machine expects next. -/
inductive Expected where
  /-- A value. -/
  | value
  /-- A key of the object that is open, whose members so far come last first. -/
  | key (before : List (Option String × Draft))
  /-- What may follow this value. -/
  | next (value : Draft)

/-- A value that breaks off, put into everything that is open around it. -/
def abandon (d : Draft) : List Frame → Draft
  | [] => d
  | .array before :: stack => abandon (.array (d :: before).reverse false) stack
  | .member before key :: stack => abandon (.object ((key, d) :: before).reverse false) stack

/-- One token: the new expectation and stack with the rest of the text, or the
document if the text ends here or breaks off. -/
def step (expected : Expected) (stack : List Frame) (cs : List Char) :
    (Expected × List Frame × List Char) ⊕ Document :=
  match expected, skip cs with
  | .value, '[' :: rest =>
    match skip rest with
    | ']' :: rest' => .inl (.next (.array [] true), stack, rest')
    | _ => .inl (.value, .array [] :: stack, rest)
  | .value, '\x7b' :: rest =>
    match skip rest with
    | '\x7d' :: rest' => .inl (.next (.object [] true), stack, rest')
    | _ => .inl (.key [], stack, rest)
  | .value, rest =>
    match readScalar? rest with
    | some (d, rest') => .inl (.next d, stack, rest')
    | none => .inr ⟨abandon .broken stack, false⟩
  | .key before, '\x22' :: rest =>
    match readString? rest with
    | some (key, rest') =>
      match skip rest' with
      | ':' :: rest'' => .inl (.value, .member before key :: stack, rest'')
      | _ => .inr ⟨abandon (.object ((key, .broken) :: before).reverse false) stack, false⟩
    | none => .inr ⟨abandon (.object before.reverse false) stack, false⟩
  | .key before, _ => .inr ⟨abandon (.object before.reverse false) stack, false⟩
  | .next d, rest =>
    match stack, rest with
    | [], rest => .inr ⟨d, rest.isEmpty⟩
    | .array before :: stack, ',' :: rest => .inl (.value, .array (d :: before) :: stack, rest)
    | .array before :: stack, ']' :: rest =>
      .inl (.next (.array (d :: before).reverse true), stack, rest)
    | .array before :: stack, _ => .inr ⟨abandon (.array (d :: before).reverse false) stack, false⟩
    | .member before key :: stack, ',' :: rest => .inl (.key ((key, d) :: before), stack, rest)
    | .member before key :: stack, '\x7d' :: rest =>
      .inl (.next (.object ((key, d) :: before).reverse true), stack, rest)
    | .member before key :: stack, _ =>
      .inr ⟨abandon (.object ((key, d) :: before).reverse false) stack, false⟩

/-! ## Every token shortens the text -/

theorem length_skip (cs : List Char) : (skip cs).length ≤ cs.length :=
  (List.dropWhile_sublist _).length_le

theorem length_of_skip {cs rest : List Char} {c : Char} (h : skip cs = c :: rest) :
    rest.length < cs.length := by
  have hle := length_skip cs
  rw [h] at hle
  exact Nat.lt_of_succ_le hle

theorem length_of_readChars? {cs before rest : List Char} {whole : Bool} {s : Option String}
    (h : readChars? cs before whole = some (s, rest)) : rest.length < cs.length := by
  fun_induction readChars? cs before whole with
  | case1 => simp at h
  | case2 =>
    obtain ⟨_, rfl⟩ := by simpa using h
    simp
  | case3 _ _ _ _ _ _ _ _ ih =>
    have := ih h
    simp only [List.length_cons]; omega
  | case4 _ _ _ _ _ _ _ ih =>
    have := ih h
    simp only [List.length_cons]; omega
  | case5 => simp at h
  | case6 => simp at h
  | case7 _ _ _ _ _ _ _ ih =>
    have := ih h
    simp only [List.length_cons]; omega

theorem length_of_readString? {cs rest : List Char} {s : Option String}
    (h : readString? cs = some (s, rest)) : rest.length < cs.length :=
  length_of_readChars? h

theorem length_digits (cs : List Char) : (digits cs).length ≤ cs.length :=
  (List.takeWhile_sublist _).length_le

theorem length_of_readWhole? {cs rest : List Char} {n : Nat} (h : readWhole? cs = some (n, rest)) :
    rest.length < cs.length := by
  have hd := length_digits cs
  unfold readWhole? at h
  split at h
  · simp at h
  · simp at h
  · obtain ⟨_, rfl⟩ := by simpa using h
    cases hds' : digits cs with
    | nil => simp_all
    | cons d ds =>
      simp_all
      omega

theorem length_of_readFraction? {cs rest : List Char} {ds : List (Fin 10)}
    (h : readFraction? cs = some (ds, rest)) : rest.length ≤ cs.length := by
  unfold readFraction? at h
  split at h
  · simp only at h
    split at h
    · simp at h
    · obtain ⟨_, rfl⟩ := by simpa using h
      simp only [List.length_drop, List.length_cons]; omega
  · obtain ⟨_, rfl⟩ := by simpa using h
    exact Nat.le_refl _

theorem length_takeSign (cs : List Char) : (takeSign cs).2.length ≤ cs.length := by
  unfold takeSign; split <;> simp

theorem length_of_readExponent? {cs rest : List Char} {e : Option Int}
    (h : readExponent? cs = some (e, rest)) : rest.length ≤ cs.length := by
  unfold readExponent? at h
  split at h
  · split at h
    · next c tail _ =>
      have := length_takeSign tail
      simp only at h
      split at h
      · simp at h
      · obtain ⟨_, rfl⟩ := by simpa using h
        simp only [List.length_drop, List.length_cons]; omega
    · obtain ⟨_, rfl⟩ := by simpa using h
      exact Nat.le_refl _
  · obtain ⟨_, rfl⟩ := by simpa using h
    exact Nat.le_refl _

theorem length_of_readNumeral? {cs rest : List Char} {n : Numeral}
    (h : readNumeral? cs = some (n, rest)) : rest.length < cs.length := by
  simp only [readNumeral?, Option.bind_eq_bind, Option.bind_eq_some_iff, Prod.exists,
    Option.some.injEq, Prod.mk.injEq] at h
  obtain ⟨_, a, h₁, _, b, h₂, _, c, h₃, _, rfl⟩ := h
  have h₁ := length_of_readWhole? h₁
  have h₂ := length_of_readFraction? h₂
  have h₃ := length_of_readExponent? h₃
  split at h₁ <;> simp only [List.length_cons] at * <;> omega

theorem length_of_readScalar? {cs rest : List Char} {d : Draft}
    (h : readScalar? cs = some (d, rest)) : rest.length < cs.length := by
  unfold readScalar? at h
  split at h
  · obtain ⟨⟨s, r⟩, hr, hrest⟩ := Option.map_eq_some_iff.1 h
    obtain ⟨_, rfl⟩ := by simpa using hrest
    have := length_of_readString? hr
    simp only [List.length_cons]; omega
  iterate 3
    · obtain ⟨_, rfl⟩ := by simpa using h
      simp only [List.length_cons]; omega
  · obtain ⟨⟨n, r⟩, hr, hrest⟩ := Option.map_eq_some_iff.1 h
    obtain ⟨_, rfl⟩ := by simpa using hrest
    exact length_of_readNumeral? hr

/-- **A token shortens the text.** -/
theorem length_of_step {expected expected' : Expected} {stack stack' : List Frame}
    {cs rest : List Char} (h : step expected stack cs = .inl (expected', stack', rest)) :
    rest.length < cs.length := by
  unfold step at h
  split at h
  iterate 2
    · next r hr =>
      have hr := length_of_skip hr
      split at h
      · next r' hr' =>
        obtain ⟨_, _, rfl⟩ := by simpa using h
        exact Nat.lt_trans (length_of_skip hr') hr
      · obtain ⟨_, _, rfl⟩ := by simpa using h
        exact hr
  · split at h
    · next hscalar =>
      obtain ⟨_, _, rfl⟩ := by simpa using h
      exact Nat.lt_of_lt_of_le (length_of_readScalar? hscalar) (length_skip cs)
    · simp at h
  · next hquote =>
    split at h
    · next hkey =>
      split at h
      · next hcolon =>
        obtain ⟨_, _, rfl⟩ := by simpa using h
        exact Nat.lt_trans (length_of_skip hcolon)
          (Nat.lt_trans (length_of_readString? hkey) (length_of_skip hquote))
      · simp at h
    · simp at h
  · simp at h
  · split at h
    all_goals first
      | simp at h; done
      | next hnext =>
        obtain ⟨_, _, rfl⟩ := by simpa using h
        exact length_of_skip hnext

/-! ## Reading -/

/-- The machine run to its end. -/
def run (expected : Expected) (stack : List Frame) (cs : List Char) : Document :=
  match h : step expected stack cs with
  | .inl (expected', stack', rest) =>
    have := length_of_step h
    run expected' stack' rest
  | .inr document => document
  termination_by cs.length

/-- **A JSON text, read as far as it goes.** -/
def read (cs : List Char) : Document := run .value [] cs

/-- What can be read from a string. -/
def ofString (s : String) : Document := read s.toList

/-! ## Bytes -/

/-- Where in a text a character stands. -/
inductive Spot where
  | outside
  | string
  /-- In a string, behind a backslash. -/
  | escaped

namespace Spot

/-- The spot behind a character. -/
def next : Spot → Char → Spot
  | .outside, c => if c = '\x22' then .string else .outside
  | .string, c => if c = '\x22' then .outside else if c = '\x5c' then .escaped else .string
  | .escaped, _ => .string

/-- Half of a surrogate pair. -/
def half : List Char := ['\x5c', 'u', 'd', '8', '0', '0']

/-- What is read where no character is: in a string half of a surrogate pair, which is written
twice, so that nothing behind it can be its other half, and elsewhere a character that is part
of no token. -/
def gap : Spot → List Char
  | .string => half ++ half
  | .outside | .escaped => ['\x00']

end Spot

/-- The text that is read for characters with gaps between them. -/
def spelled : Spot → List (Option Char) → List Char
  | _, [] => []
  | spot, some c :: cs => c :: spelled (spot.next c) cs
  | spot, none :: cs => spot.gap ++ spelled spot cs

/-- **What can be read from bytes.** -/
def ofBytes (bytes : List UInt8) : Document := read (spelled .outside (Text.Utf8.decode bytes))

/-- A string that is broken stays so. -/
theorem readChars?_broken {cs before rest : List Char} {s : Option String}
    (h : readChars? cs before false = some (s, rest)) : s = none := by
  generalize hbroken : false = whole at h
  fun_induction readChars? cs before whole with
  | case1 => cases h
  | case2 =>
    rw [← hbroken, if_neg Bool.false_ne_true] at h
    exact (Prod.mk.inj (Option.some.inj h)).1.symm
  | case3 _ _ _ _ _ _ _ _ ih => exact ih hbroken h
  | case4 _ _ _ _ _ _ _ ih => exact ih rfl h
  | case5 => cases h
  | case6 => cases h
  | case7 _ _ _ _ _ _ _ ih => exact ih hbroken h

/-- **A gap in a string breaks it**, whatever is behind it. -/
theorem readChars?_gap {cs before rest : List Char} {whole : Bool} {s : Option String}
    (h : readChars? (Spot.string.gap ++ cs) before whole = some (s, rest)) : s = none := by
  have hhalf : readEscape? (Spot.half.tail ++ (Spot.half ++ cs)) = some (none, Spot.half ++ cs) :=
    rfl
  have hgap : Spot.string.gap ++ cs = '\x5c' :: (Spot.half.tail ++ (Spot.half ++ cs)) := rfl
  rw [hgap, readChars?, if_neg (by decide), if_pos rfl] at h
  split at h
  · next heq => cases hhalf.symm.trans heq
  · next heq =>
    obtain rfl := (Prod.mk.inj (Option.some.inj (hhalf.symm.trans heq))).2
    exact readChars?_broken h
  · next heq => cases hhalf.symm.trans heq

theorem spelled_map_some (spot : Spot) (cs : List Char) : spelled spot (cs.map some) = cs := by
  induction cs generalizing spot with
  | nil => cases spot <;> rfl
  | cons c cs ih => rw [List.map_cons, spelled, ih]

/-- From the bytes of a text the text is read. -/
theorem ofBytes_bytes (s : String) : ofBytes (Text.Utf8.bytes s) = ofString s := by
  rw [ofBytes, Text.Utf8.decode_bytes, spelled_map_some, ofString]

end Draft
end PickupLedger.Json
