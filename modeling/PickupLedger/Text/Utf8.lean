/-!
# UTF-8

Bytes as text.  `Utf8.decode` reads bytes one character at a time; where no character
can be read, the longest beginning of one is passed over, at least one byte.
`Utf8.read?` is the text of bytes that are UTF-8, `Utf8.readLossy` puts U+FFFD for
what is not.  The bytes of a text are read as its characters (`Utf8.decode_bytes`).
-/

namespace PickupLedger.Text.Utf8

/-- What the first byte of a character says: its value bits, how many bytes follow,
and the bounds of the first of them. -/
structure Lead where
  value : Nat
  follow : Nat
  low : UInt8
  high : UInt8
  deriving DecidableEq

/-- The reading of a first byte. -/
def lead? (b : UInt8) : Option Lead :=
  let n := b.toNat
  if b < 0x80 then some ⟨n, 0, 0, 0⟩
  else if b < 0xC2 then none
  else if b < 0xE0 then some ⟨n - 0xC0, 1, 0x80, 0xBF⟩
  else if b = 0xE0 then some ⟨0, 2, 0xA0, 0xBF⟩
  else if b = 0xED then some ⟨0xD, 2, 0x80, 0x9F⟩
  else if b < 0xF0 then some ⟨n - 0xE0, 2, 0x80, 0xBF⟩
  else if b = 0xF0 then some ⟨0, 3, 0x90, 0xBF⟩
  else if b < 0xF4 then some ⟨n - 0xF0, 3, 0x80, 0xBF⟩
  else if b = 0xF4 then some ⟨4, 3, 0x80, 0x8F⟩
  else none

/-- The bytes that follow a first byte: the value so far with theirs, or none if one
of them cannot follow, and the bytes behind those that could. -/
def follow (value : Nat) : Nat → UInt8 → UInt8 → List UInt8 → Option Nat × List UInt8
  | 0, _, _, bytes => (some value, bytes)
  | _ + 1, _, _, [] => (none, [])
  | n + 1, low, high, b :: bytes =>
    if low ≤ b && b ≤ high then follow (value * 64 + (b.toNat - 0x80)) n 0x80 0xBF bytes
    else (none, b :: bytes)

theorem length_follow (value n : Nat) (low high : UInt8) (bytes : List UInt8) :
    (follow value n low high bytes).2.length ≤ bytes.length := by
  fun_induction follow value n low high bytes with
  | case1 => simp
  | case2 => simp
  | case3 _ _ _ _ _ _ _ ih => simp only [List.length_cons]; omega
  | case4 => simp

/-- **Bytes as characters**; none for bytes that are no character. -/
def decode : List UInt8 → List (Option Char)
  | [] => []
  | b :: bytes =>
    match lead? b with
    | none => none :: decode bytes
    | some l =>
      have := length_follow l.value l.follow l.low l.high bytes
      (follow l.value l.follow l.low l.high bytes).1.map Char.ofNat ::
        decode (follow l.value l.follow l.low l.high bytes).2
  termination_by bytes => bytes.length

/-- The text of bytes that are UTF-8. -/
def read? (bytes : List UInt8) : Option String :=
  (decode bytes).mapM id |>.map String.ofList

/-- The text of bytes, with U+FFFD for what is not UTF-8. -/
def readLossy (bytes : List UInt8) : String :=
  String.ofList ((decode bytes).map fun c => c.getD '\ufffd')

/-- The bytes of a text. -/
def bytes (s : String) : List UInt8 := s.toList.flatMap String.utf8EncodeChar

/-! ## The bytes of a text are read as its characters -/

/-- The first bytes of characters, by how many bytes follow. -/
theorem lead?_zero : ∀ n < 128, lead? (UInt8.ofNat n) = some ⟨n, 0, 0, 0⟩ := by decide

theorem lead?_one : ∀ n < 32, 2 ≤ n →
    lead? (UInt8.ofNat (n + 192)) = some ⟨n, 1, 0x80, 0xBF⟩ := by decide

theorem lead?_two : ∀ n < 16, lead? (UInt8.ofNat (n + 224)) =
    some ⟨n, 2, if n = 0 then 0xA0 else 0x80, if n = 13 then 0x9F else 0xBF⟩ := by decide

theorem lead?_three : ∀ n < 5, lead? (UInt8.ofNat (n + 240)) =
    some ⟨n, 3, if n = 0 then 0x90 else 0x80, if n = 4 then 0x8F else 0xBF⟩ := by decide

section Following
variable {value m n : Nat} (bytes : List UInt8)

/-- A byte that may follow adds six bits. -/
theorem follow_cons {low high : UInt8} (hm : m < 64) (hlow : low.toNat ≤ m + 128)
    (hhigh : m + 128 ≤ high.toNat) :
    follow value (n + 1) low high (UInt8.ofNat (m + 128) :: bytes) =
      follow (value * 64 + m) n 0x80 0xBF bytes := by
  have hbyte : (UInt8.ofNat (m + 128)).toNat = m + 128 := by
    rw [UInt8.toNat_ofNat', Nat.mod_eq_of_lt (by omega)]
  have hwithin : (decide (low ≤ UInt8.ofNat (m + 128)) &&
      decide (UInt8.ofNat (m + 128) ≤ high)) = true := by
    rw [Bool.and_eq_true, decide_eq_true_eq, decide_eq_true_eq, UInt8.le_iff_toNat_le,
      UInt8.le_iff_toNat_le, hbyte]
    exact ⟨hlow, hhigh⟩
  rw [follow, if_pos hwithin, hbyte, show m + 128 - 0x80 = m from Nat.add_sub_cancel m 128]

theorem follow_tail (hm : m < 64) :
    follow value (n + 1) 0x80 0xBF (UInt8.ofNat (m + 128) :: bytes) =
      follow (value * 64 + m) n 0x80 0xBF bytes :=
  follow_cons bytes hm (Nat.le_add_left _ _) (by show m + 128 ≤ 191; omega)

end Following

/-- A first byte with those that follow it is a character. -/
theorem decode_lead {b : UInt8} {l : Lead} (hlead : lead? b = some l) {v : Nat}
    {bytes rest : List UInt8}
    (hfollow : follow l.value l.follow l.low l.high bytes = (some v, rest)) :
    decode (b :: bytes) = some (Char.ofNat v) :: decode rest := by
  rw [decode]
  split
  · next h => cases hlead.symm.trans h
  · next h =>
    obtain rfl := Option.some.inj (hlead.symm.trans h)
    simp only [hfollow, Option.map_some]

/-- **A character is read** from its bytes, in front of any others. -/
theorem decode_char (c : Char) (bytes : List UInt8) :
    decode (String.utf8EncodeChar c ++ bytes) = some c :: decode bytes := by
  have hvalid : c.val.toNat < 0xD800 ∨ 0xDFFF < c.val.toNat ∧ c.val.toNat < 0x110000 := c.valid
  obtain ⟨v, hv⟩ : ∃ v, c.val.toNat = v := ⟨_, rfl⟩
  obtain rfl : Char.ofNat v = c := by rw [← hv]; exact Char.ofNat_toNat c
  rw [hv] at hvalid
  rw [String.utf8EncodeChar, hv]
  -- One case for each number of bytes; the bounds of the second keep a number from being
  -- written with more bytes than it needs, and half of a surrogate pair from being read.
  split
  · exact decode_lead (lead?_zero v (by omega)) rfl
  split
  · have hvalue : v / 64 % 32 * 64 + v % 64 = v := by omega
    refine decode_lead (lead?_one (v / 64 % 32) (by omega) (by omega)) ?_
    show follow _ 1 _ _ (_ :: bytes) = _
    rw [follow_tail bytes (by omega), hvalue, follow]
  split
  · have hvalue : (v / 4096 % 16 * 64 + v / 64 % 64) * 64 + v % 64 = v := by omega
    have hlow : (if v / 4096 % 16 = 0 then 0xA0 else 0x80 : UInt8).toNat ≤ v / 64 % 64 + 128 := by
      split
      · show 160 ≤ v / 64 % 64 + 128; omega
      · exact Nat.le_add_left _ _
    have hhigh : v / 64 % 64 + 128 ≤ (if v / 4096 % 16 = 13 then 0x9F else 0xBF : UInt8).toNat := by
      split
      · show v / 64 % 64 + 128 ≤ 159; omega
      · show v / 64 % 64 + 128 ≤ 191; omega
    refine decode_lead (lead?_two (v / 4096 % 16) (by omega)) ?_
    show follow _ 2 _ _ (_ :: _ :: bytes) = _
    rw [follow_cons _ (by omega) hlow hhigh, follow_tail bytes (by omega), hvalue, follow]
  · have hvalue : ((v / 262144 % 8 * 64 + v / 4096 % 64) * 64 + v / 64 % 64) * 64 + v % 64 = v := by
      omega
    have hlow : (if v / 262144 % 8 = 0 then 0x90 else 0x80 : UInt8).toNat ≤
        v / 4096 % 64 + 128 := by
      split
      · show 144 ≤ v / 4096 % 64 + 128; omega
      · exact Nat.le_add_left _ _
    have hhigh : v / 4096 % 64 + 128 ≤
        (if v / 262144 % 8 = 4 then 0x8F else 0xBF : UInt8).toNat := by
      split
      · show v / 4096 % 64 + 128 ≤ 143; omega
      · show v / 4096 % 64 + 128 ≤ 191; omega
    refine decode_lead (lead?_three (v / 262144 % 8) (by omega)) ?_
    show follow _ 3 _ _ (_ :: _ :: _ :: bytes) = _
    rw [follow_cons _ (by omega) hlow hhigh, follow_tail _ (by omega), follow_tail bytes (by omega),
      hvalue, follow]

/-- **The bytes of a text are read as its characters.** -/
theorem decode_bytes (s : String) : decode (bytes s) = s.toList.map some := by
  have hall (cs : List Char) : decode (cs.flatMap String.utf8EncodeChar) = cs.map some := by
    induction cs with
    | nil => rw [List.flatMap_nil, decode, List.map_nil]
    | cons c cs ih => rw [List.flatMap_cons, decode_char, ih, List.map_cons]
  exact hall s.toList

end PickupLedger.Text.Utf8
