import Mathlib.Data.List.Basic
import PickupLedger.Proofs.JsonReadBack
import PickupLedger.Toml.Document

/-!
# Lines of a document read back

A document can be written line by line: headers and assignments with keys that need no quotes, and
as values strings, whole numbers that fit 64 bits, and truth values (`Line.IsPlain`).  What is read
from such a text are its lines (`lines?_text`), for every string, whatever characters are in it.

Each part of a line is read in front of whatever comes behind it; of a value it must be known that
its line ends behind it.
-/

namespace PickupLedger.Toml
open Text
open Json.Draft (decimal_ne_nil decimal_eq_zero_or isDigit_of_mem_decimal)

/-! ## Strings -/

/-- A character as it is written in a string: characters that may not stand there by their numbers,
which are small. -/
def quotedChar (c : Char) : List Char :=
  if c = '\x22' ∨ c = '\x5c' then ['\x5c', c]
  else if isVisible c then [c]
  else ['\x5c', 'u', '0', '0', Json.escape.digit16 (c.toNat / 16),
    Json.escape.digit16 (c.toNat % 16)]

/-- **A string in double quotes.** -/
def quoted (s : String) : List Char := '\x22' :: (s.toList.flatMap quotedChar ++ ['\x22'])

theorem toNat_lt_of_not_isVisible {c : Char} (h : isVisible c = false) : c.toNat < 128 := by
  simp only [isVisible, Bool.or_eq_false_iff, Bool.and_eq_false_iff, decide_eq_false_iff_not] at h
  omega

theorem hexValue?_digit16 {n : Nat} (hn : n < 16) :
    hexValue? (Json.escape.digit16 n) = some n := by
  have hall : ∀ i < 16, hexValue? (Json.escape.digit16 i) = some i := by decide
  exact hall n hn

theorem codePoint?_toNat (c : Char) : codePoint? c.toNat = some c := by
  rw [codePoint?, if_pos (show c.toNat.isValidChar from c.valid), Char.ofNat_toNat]

/-- A character is read back from its number. -/
theorem escaped?_number {c : Char} (hc : c.toNat < 128) (rest : List Char) :
    escaped? ('u' :: '0' :: '0' :: Json.escape.digit16 (c.toNat / 16) ::
      Json.escape.digit16 (c.toNat % 16) :: rest) = some (c, rest) := by
  have hzero : hexValue? '0' = some 0 := by decide
  have hhigh := hexValue?_digit16 (show c.toNat / 16 < 16 by omega)
  have hlow := hexValue?_digit16 (show c.toNat % 16 < 16 by omega)
  have hnumber : (((0 * 16 + 0) * 16 + 0) * 16 + c.toNat / 16) * 16 + c.toNat % 16 = c.toNat := by
    omega
  rw [escaped?]
  simp only [hexNumber?, hzero, hhigh, hlow, Option.bind_some]
  rw [hnumber, codePoint?_toNat, Option.map_some]

theorem basicRest?_escaped {fuel : Nat} {before rest rest' : List Char} {c : Char}
    (h : escaped? rest = some (c, rest')) :
    basicRest? (fuel + 1) before ('\x5c' :: rest) = basicRest? fuel (c :: before) rest' := by
  rw [basicRest?, if_neg (by decide), if_pos rfl, h, Option.bind_some]

/-- **A character is read back** from how it is written in a string. -/
theorem basicRest?_quotedChar (fuel : Nat) (before : List Char) (c : Char) (rest : List Char) :
    basicRest? (fuel + 1) before (quotedChar c ++ rest) = basicRest? fuel (c :: before) rest := by
  rw [quotedChar]
  split
  · next h =>
    rcases h with rfl | rfl
    · exact basicRest?_escaped rfl
    · exact basicRest?_escaped rfl
  · next h =>
    rw [not_or] at h
    split
    · next hvisible =>
      rw [List.singleton_append, basicRest?, if_neg h.1, if_neg h.2, if_pos hvisible]
    · next hvisible =>
      exact basicRest?_escaped
        (escaped?_number (toNat_lt_of_not_isVisible (Bool.eq_false_iff.mpr hvisible)) rest)

theorem quotedChar_ne_nil (c : Char) : quotedChar c ≠ [] := by
  rw [quotedChar]
  split
  · nofun
  · split <;> nofun

/-- **A string is read back**, in front of anything. -/
theorem basicRest?_quoted {cs : List Char} {fuel : Nat} (hfuel : cs.length < fuel)
    (before rest : List Char) :
    basicRest? fuel before (cs.flatMap quotedChar ++ '\x22' :: rest) =
      some (before.reverse ++ cs, rest) := by
  induction cs generalizing fuel before with
  | nil =>
    obtain ⟨fuel, rfl⟩ := Nat.exists_eq_add_one_of_ne_zero (Nat.ne_of_gt hfuel)
    rw [List.flatMap_nil, List.nil_append, basicRest?, if_pos rfl, List.append_nil]
  | cons c cs ih =>
    obtain ⟨fuel, rfl⟩ := Nat.exists_eq_add_one_of_ne_zero (Nat.ne_zero_of_lt hfuel)
    rw [List.flatMap_cons, List.append_assoc, basicRest?_quotedChar,
      ih (Nat.lt_of_succ_lt_succ hfuel), List.reverse_cons, List.append_assoc,
      List.singleton_append]

theorem length_le_flatMap_quotedChar (cs : List Char) :
    cs.length ≤ (cs.flatMap quotedChar).length := by
  induction cs with
  | nil => exact Nat.le_refl _
  | cons c cs ih =>
    have hpos := List.length_pos_iff.mpr (quotedChar_ne_nil c)
    rw [List.flatMap_cons, List.length_append, List.length_cons]
    omega

/-- What is in a string does not start with a quote. -/
theorem flatMap_quotedChar_ne (cs rest more : List Char) :
    cs.flatMap quotedChar ++ '\x22' :: '\n' :: rest ≠ '\x22' :: '\x22' :: more := by
  cases cs with
  | nil => simp
  | cons c cs =>
    rw [List.flatMap_cons, quotedChar]
    split
    · simp
    · next h =>
      rw [not_or] at h
      split
      · simp [h.1]
      · simp

theorem string?_quoted (s : String) (rest : List Char) :
    string? (quoted s ++ '\n' :: rest) = some (s.toList, '\n' :: rest) := by
  have hfuel :
      s.toList.length < (s.toList.flatMap quotedChar ++ '\x22' :: '\n' :: rest).length := by
    have hle := length_le_flatMap_quotedChar s.toList
    rw [List.length_append, List.length_cons]
    omega
  rw [quoted, List.cons_append, List.append_assoc, List.singleton_append, string?.eq_def]
  -- An empty string has two quotes, but a line break behind them.
  split
  · next more heq => exact absurd (List.cons.inj heq).2 (flatMap_quotedChar_ne _ _ _)
  · next heq => cases heq
  · rw [line?, basicRest?_quoted hfuel]
    rfl

/-! ## Numbers -/

section Digits
variable {ds : List Char}

theorem hexValue?_of_isDigit {c : Char} (h : c.isDigit = true) :
    hexValue? c = some (c.toNat - 48) := by
  have hbounds : '0' ≤ c ∧ c ≤ '9' := by
    simpa [Char.isDigit, Char.le_def] using h
  rw [hexValue?, if_pos hbounds]

theorem numberIn_eq_number (hds : ∀ c ∈ ds, c.isDigit = true) : numberIn 10 ds = number ds := by
  rw [numberIn, number, Nat.ofDigitChars]
  refine List.foldl_ext _ _ _ fun n c hc => ?_
  rw [hexValue?_of_isDigit (hds c hc), Option.getD_some, Nat.mul_comm]
  rfl

theorem digits?_append (hne : ds ≠ []) (hds : ∀ c ∈ ds, c.isDigit = true) (rest : List Char) :
    digits? Char.isDigit (ds ++ '\n' :: rest) = some (ds, '\n' :: rest) := by
  induction ds with
  | nil => exact absurd rfl hne
  | cons c ds ih =>
    obtain ⟨hc, hds⟩ := List.forall_mem_cons.mp hds
    cases ds with
    | nil => simp [digits?, hc]
    | cons d ds =>
      have hd : d.isDigit = true := hds d List.mem_cons_self
      have hmark : d ≠ '_' := by
        rintro rfl
        cases hd
      rw [List.cons_append, List.cons_append, digits?.eq_def]
      split
      · next heq => exact absurd (List.cons.inj (List.cons.inj heq).2).1 hmark
      · next heq =>
        obtain ⟨rfl, rfl⟩ := List.cons.inj heq
        simp only [hc, hd, if_true]
        rw [← List.cons_append, ih nofun hds, Option.map_some]
      · next heq => cases heq

theorem wholeDigits?_decimal (n : Nat) (rest : List Char) :
    wholeDigits? (decimal n ++ '\n' :: rest) = some (decimal n, '\n' :: rest) := by
  have hdigits := digits?_append (decimal_ne_nil n) (fun c => isDigit_of_mem_decimal) rest
  rw [wholeDigits?.eq_def]
  obtain hzero | ⟨c, cs, hcons, hc⟩ := decimal_eq_zero_or n
  · rw [hzero]
    rfl
  · rw [hcons] at hdigits ⊢
    split
    · next heq => exact absurd (List.cons.inj heq).1 hc
    · exact hdigits

/-- Digits alone are no date. -/
theorem startsDate_digits (hds : ∀ c ∈ ds, c.isDigit = true) (rest : List Char) :
    startsDate (ds ++ '\n' :: rest) = false := by
  match ds, hds with
  | [], _ | [_], _ | [_, _], _ | [_, _, _], _ => simp [startsDate]
  | [_, _, _, _], _ => simp [startsDate]
  | _ :: _ :: _ :: _ :: e :: _, hds =>
    have he : e ≠ '-' := by
      rintro rfl
      cases hds '-' (by simp)
    simp [startsDate, he]

/-- Digits alone are no time of day. -/
theorem startsClock_digits (hds : ∀ c ∈ ds, c.isDigit = true) (rest : List Char) :
    startsClock (ds ++ '\n' :: rest) = false := by
  match ds, hds with
  | [], _ | [_], _ | [_, _], _ => simp [startsClock]
  | _ :: _ :: e :: _, hds =>
    have he : e ≠ ':' := by
      rintro rfl
      cases hds ':' (by simp)
    simp [startsClock, he]

end Digits

/-- The greatest number that a document can hold. -/
def mostInteger : Nat := 0x7fffffffffffffff

theorem decimal?_decimal {n : Nat} (hn : n ≤ mostInteger) (rest : List Char) :
    decimal? false (decimal n ++ '\n' :: rest) = some (.integer n, '\n' :: rest) := by
  have hnumber : numberIn 10 (decimal n) = n :=
    (numberIn_eq_number fun c => isDigit_of_mem_decimal).trans (number_decimal n)
  have hinteger : integer? n = some (.integer n) := by
    rw [integer?, if_pos]
    rw [mostInteger] at hn
    omega
  simp only [decimal?, wholeDigits?_decimal, Option.bind_eq_bind, Option.bind_some]
  simp [startsExponent, hnumber, hinteger]

/-- What a number starts with: a digit, which is zero only if nothing follows. -/
theorem exists_decimal_eq (n : Nat) :
    ∃ c cs, decimal n = c :: cs ∧ c.isDigit = true ∧ (c = '0' → cs = []) := by
  obtain hzero | ⟨c, cs, hcons, hc⟩ := decimal_eq_zero_or n
  · exact ⟨'0', [], hzero, rfl, fun _ => rfl⟩
  · exact ⟨c, cs, hcons, isDigit_of_mem_decimal (hcons ▸ List.mem_cons_self), fun h => absurd h hc⟩

/-- **A number is read back** at the end of a line. -/
theorem scalar?_decimal {n : Nat} (hn : n ≤ mostInteger) (rest : List Char) :
    scalar? (decimal n ++ '\n' :: rest) = some (.integer n, '\n' :: rest) := by
  have hdigits : ∀ c ∈ decimal n, c.isDigit = true := fun c => isDigit_of_mem_decimal
  have hdate := startsDate_digits hdigits rest
  have hclock := startsClock_digits hdigits rest
  have hread := decimal?_decimal hn rest
  obtain ⟨c, cs, hcons, hc, hzero⟩ := exists_decimal_eq n
  rw [hcons, List.cons_append] at hdate hclock hread ⊢
  have hfirst {d : Char} {more : List Char} (heq : c :: (cs ++ '\n' :: rest) = d :: more) :
      d.isDigit = true := (List.cons.inj heq).1 ▸ hc
  have hsecond {d : Char} {more : List Char}
      (heq : c :: (cs ++ '\n' :: rest) = '0' :: d :: more) : d = '\n' := by
    obtain ⟨h0, hmore⟩ := List.cons.inj heq
    rw [hzero h0] at hmore
    exact (List.cons.inj hmore).1.symm
  -- Only a date, a time of day and a number start with a digit, and a number of another base
  -- has a letter behind its zero.
  rw [scalar?.eq_def]
  split
  · next heq => cases hfirst heq
  · next heq => cases hfirst heq
  · next heq => cases hfirst heq
  · next heq => cases hfirst heq
  · next heq => cases hsecond heq
  · next heq => cases hsecond heq
  · next heq => cases hsecond heq
  · next heq => cases hfirst heq
  · next heq => cases hfirst heq
  · rw [hdate, hclock, if_neg Bool.false_ne_true, if_neg Bool.false_ne_true, signed?, if_neg, hread]
    rintro (h | h)
    · cases hfirst ((List.take_append_drop 3 _).symm.trans (congrArg (· ++ _) h))
    · cases hfirst ((List.take_append_drop 3 _).symm.trans (congrArg (· ++ _) h))

/-! ## Values -/

/-- A value as it is written on a line. -/
def valueText : Value → List Char
  | .string s => quoted s
  | .integer i => integer i
  | .bool true => ['t', 'r', 'u', 'e']
  | .bool false => ['f', 'a', 'l', 's', 'e']
  | _ => []

/-- **A plain value**: a string, a whole number that a document can hold, or a truth value. -/
def IsPlain : Value → Prop
  | .string _ | .bool _ => True
  | .integer i => 0 ≤ i ∧ i ≤ mostInteger
  | _ => False

theorem value?_scalar (depth : Nat) {c : Char} (hopen : c ≠ '[') (hbrace : c ≠ '\x7b')
    (cs : List Char) : value? depth (c :: cs) = scalar? (c :: cs) := by
  rw [value?.eq_def]
  split
  · next heq => exact absurd (List.cons.inj heq).1 hopen
  · next heq => exact absurd (List.cons.inj heq).1 hbrace
  · rfl

theorem ne_of_apart {p : Char → Bool} {c d : Char} (hc : p c = true) (hd : p d = false) :
    c ≠ d := by
  rintro rfl
  exact Bool.false_ne_true (hd.symm.trans hc)

/-- What a plain value starts with. -/
theorem exists_valueText_eq {v : Value} (hv : IsPlain v) :
    ∃ c cs, valueText v = c :: cs ∧ isSpacing c = false ∧ c ≠ '[' ∧ c ≠ '\x7b' := by
  cases v with
  | string s => exact ⟨'\x22', _, rfl, by decide, by decide, by decide⟩
  | integer i =>
    obtain ⟨c, cs, hcons, hc, -⟩ := exists_decimal_eq i.natAbs
    refine ⟨c, cs, ?_, ?_, ?_, ?_⟩
    · rw [valueText, integer, if_neg (Int.not_lt.mpr hv.1), hcons]
    · simp [isSpacing, ne_of_apart hc (d := ' ') rfl, ne_of_apart hc (d := '\t') rfl]
    · exact ne_of_apart hc rfl
    · exact ne_of_apart hc rfl
  | bool b => cases b <;> exact ⟨_, _, rfl, by decide, by decide, by decide⟩
  | _ => exact absurd hv not_false

theorem scalar?_valueText {v : Value} (hv : IsPlain v) (rest : List Char) :
    scalar? (valueText v ++ '\n' :: rest) = some (v, '\n' :: rest) := by
  cases v with
  | string s =>
    have hread := string?_quoted s rest
    rw [valueText]
    rw [quoted, List.cons_append] at hread ⊢
    rw [scalar?, hread, Option.map_some]
    simp only [String.ofList_toList]
  | integer i =>
    obtain ⟨n, rfl⟩ := Int.eq_ofNat_of_zero_le hv.1
    rw [valueText, integer, if_neg (Int.not_lt.mpr hv.1), Int.natAbs_natCast]
    exact scalar?_decimal (Int.ofNat_le.mp hv.2) rest
  | bool b => cases b <;> rfl
  | _ => exact absurd hv not_false

/-- **A plain value is read back** at the end of a line. -/
theorem value?_valueText {v : Value} (hv : IsPlain v) (depth : Nat) (rest : List Char) :
    value? depth (valueText v ++ '\n' :: rest) = some (v, '\n' :: rest) := by
  have hread := scalar?_valueText hv rest
  obtain ⟨c, cs, hcons, -, hopen, hbrace⟩ := exists_valueText_eq hv
  rw [hcons, List.cons_append] at hread ⊢
  rw [value?_scalar depth hopen hbrace, hread]

/-! ## Lines -/

/-- A key that needs no quotes. -/
def IsBareKey (key : String) : Prop := key.toList ≠ [] ∧ key.toList.all isBare = true

instance (key : String) : Decidable (IsBareKey key) := inferInstanceAs (Decidable (_ ∧ _))

/-- What a key starts with. -/
theorem IsBareKey.exists_eq {key : String} (h : IsBareKey key) :
    ∃ c cs, key.toList = c :: cs ∧ isBare c = true := by
  obtain ⟨c, cs, hcons⟩ := List.exists_cons_of_ne_nil h.1
  exact ⟨c, cs, hcons, List.all_eq_true.mp h.2 c (hcons ▸ List.mem_cons_self)⟩

theorem skipSpacing_cons {c : Char} (h : isSpacing c = false) (cs : List Char) :
    skipSpacing (c :: cs) = c :: cs :=
  List.dropWhile_cons_of_neg (by rw [h]; decide)

theorem isSpacing_of_isBare {c : Char} (h : isBare c = true) : isSpacing c = false := by
  simp [isSpacing, ne_of_apart h (d := ' ') rfl, ne_of_apart h (d := '\t') rfl]

section Keys
variable {key : String}

theorem key?_bare (hkey : IsBareKey key) {c : Char} (hc : isBare c = false) (rest : List Char) :
    key? (key.toList ++ c :: rest) = some (key, c :: rest) := by
  have htake : (key.toList ++ c :: rest).takeWhile isBare = key.toList := by
    rw [List.takeWhile_append_of_pos (List.all_eq_true.mp hkey.2),
      List.takeWhile_cons_of_neg (by rw [hc]; decide), List.append_nil]
  have hdrop : (key.toList ++ c :: rest).drop key.toList.length = c :: rest := List.drop_left
  have hempty : key.toList.isEmpty = false := by simpa using hkey.1
  obtain ⟨d, ds, hcons, hd⟩ := hkey.exists_eq
  rw [key?.eq_def]
  split
  · next heq =>
    rw [hcons] at heq
    exact absurd (List.cons.inj heq).1 (ne_of_apart hd rfl)
  · next heq =>
    rw [hcons] at heq
    exact absurd (List.cons.inj heq).1 (ne_of_apart hd rfl)
  · simp only [htake, hdrop, hempty, String.ofList_toList]
    rfl

/-- **A key alone is read back**, with the spacing behind it. -/
theorem path?_bare (hkey : IsBareKey key) {c : Char} (hc : isBare c = false)
    {rest rest' : List Char} (hrest : skipSpacing (c :: rest) = rest')
    (hdot : ∀ more, rest' ≠ '.' :: more) :
    path? (key.toList ++ c :: rest) = some ([key], rest') := by
  obtain ⟨d, ds, hcons, hd⟩ := hkey.exists_eq
  have hskip : skipSpacing (key.toList ++ c :: rest) = key.toList ++ c :: rest := by
    rw [hcons, List.cons_append, skipSpacing_cons (isSpacing_of_isBare hd)]
  rw [path?, show maxDepth = 78 + 1 from rfl, keyPath?, hskip, key?_bare hkey hc, Option.bind_some]
  simp only [hrest]

end Keys

namespace Line

/-- **A line as it is written**, with its end. -/
def text : Line → List Char
  | .header [name] => '[' :: (name.toList ++ [']', '\n'])
  | .assign [key] v => key.toList ++ ' ' :: '=' :: ' ' :: (valueText v ++ ['\n'])
  | _ => []

/-- **A plain line**: the header of a table, or a plain value for a key of the table. -/
def IsPlain : Line → Prop
  | .header [name] => IsBareKey name
  | .assign [key] v => IsBareKey key ∧ Toml.IsPlain v
  | _ => False

/-- What a plain line starts with. -/
theorem IsPlain.exists_eq {l : Line} (h : l.IsPlain) :
    ∃ c cs, l.text = c :: cs ∧ (c = '[' ∨ isBare c = true) := by
  match l, h with
  | .header [name], _ => exact ⟨'[', _, rfl, .inl rfl⟩
  | .assign [key] v, h =>
    obtain ⟨c, cs, hcons, hc⟩ := h.1.exists_eq
    exact ⟨c, _, by rw [text, hcons, List.cons_append], .inr hc⟩

/-- **A plain line is read back.** -/
theorem IsPlain.content? {l : Line} (h : l.IsPlain) (rest : List Char) :
    content? (l.text ++ rest) = some (l, rest) := by
  match l, h with
  | .header [name], h =>
    obtain ⟨c, cs, hcons, hc⟩ := IsBareKey.exists_eq h
    have hpath : path? (name.toList ++ ']' :: '\n' :: rest) = some ([name], ']' :: '\n' :: rest) :=
      path?_bare h rfl rfl nofun
    have htext : text (.header [name]) ++ rest = '[' :: (name.toList ++ ']' :: '\n' :: rest) := by
      simp [text]
    rw [htext, content?.eq_def]
    split
    · next heq =>
      rw [hcons] at heq
      exact absurd (List.cons.inj (List.cons.inj heq).2).1 (ne_of_apart hc rfl)
    · next heq =>
      rw [← (List.cons.inj heq).2, hpath]
      rfl
    · next hother => exact absurd rfl (hother _)
  | .assign [key] v, ⟨hkey, hv⟩ =>
    obtain ⟨c, cs, hcons, hc⟩ := hkey.exists_eq
    obtain ⟨d, ds, hvalue, hd, -⟩ := exists_valueText_eq hv
    have hread := value?_valueText hv maxDepth rest
    have hpath : path? (key.toList ++ ' ' :: '=' :: ' ' :: (valueText v ++ '\n' :: rest)) =
        some ([key], '=' :: ' ' :: (valueText v ++ '\n' :: rest)) :=
      path?_bare hkey rfl rfl nofun
    have hskip :
        skipSpacing (' ' :: (valueText v ++ '\n' :: rest)) = valueText v ++ '\n' :: rest := by
      rw [hvalue]
      exact skipSpacing_cons hd _
    have htext : text (.assign [key] v) ++ rest =
        key.toList ++ ' ' :: '=' :: ' ' :: (valueText v ++ '\n' :: rest) := by
      simp [text]
    rw [htext, content?.eq_def]
    split
    · next heq =>
      rw [hcons] at heq
      exact absurd (List.cons.inj heq).1 (ne_of_apart hc rfl)
    · next heq =>
      rw [hcons] at heq
      exact absurd (List.cons.inj heq).1 (ne_of_apart hc rfl)
    · rw [assignment?, hpath]
      simp only [Option.bind_eq_bind, Option.bind_some, mark?, if_true, hskip, hread]
      rfl

/-- A plain line is no blank one. -/
theorem IsPlain.not_blank {l : Line} (h : l.IsPlain) (rest : List Char) :
    skipSpacing (l.text ++ rest) = l.text ++ rest ∧ endOfLine? (l.text ++ rest) = none ∧
      (l.text ++ rest).isEmpty = false := by
  obtain ⟨c, cs, hcons, hc⟩ := h.exists_eq
  have hapart (d : Char) (hbracket : d ≠ '[') (hbare : isBare d = false) : c ≠ d := by
    rcases hc with rfl | hc
    · exact hbracket.symm
    · exact ne_of_apart hc hbare
  have hspacing : isSpacing c = false := by
    simp [isSpacing, hapart ' ' (by decide) rfl, hapart '\t' (by decide) rfl]
  rw [hcons, List.cons_append]
  refine ⟨skipSpacing_cons hspacing _, ?_, rfl⟩
  have hbreak : lineBreak? (c :: (cs ++ rest)) = none := by
    rw [lineBreak?.eq_def]
    split
    · next heq => exact absurd (List.cons.inj heq).1 (hapart '\n' (by decide) rfl)
    · next heq => exact absurd (List.cons.inj heq).1 (hapart '\r' (by decide) rfl)
    · rfl
  have hcomment (more : List Char) : c :: (cs ++ rest) ≠ '#' :: more := fun heq =>
    hapart '#' (by decide) rfl (List.cons.inj heq).1
  simp only [endOfLine?, skipSpacing_cons hspacing]
  rw [List.isEmpty_cons, if_neg Bool.false_ne_true, hbreak]

end Line

section Lines
variable {ls : List Line}

theorem lines?_text (h : ∀ l ∈ ls, l.IsPlain) {fuel : Nat} (hfuel : ls.length ≤ fuel) :
    lines? fuel (ls.flatMap Line.text) = some ls := by
  induction ls generalizing fuel with
  | nil => cases fuel <;> rfl
  | cons l ls ih =>
    obtain ⟨fuel, rfl⟩ := Nat.exists_eq_add_one_of_ne_zero (Nat.ne_zero_of_lt hfuel)
    obtain ⟨hl, hls⟩ := List.forall_mem_cons.mp h
    obtain ⟨hskip, hend, hempty⟩ := hl.not_blank (ls.flatMap Line.text)
    rw [List.flatMap_cons, lines?]
    simp only [hskip, hend, hempty, hl.content?, Bool.false_eq_true, if_false, Option.bind_some,
      ih hls (Nat.le_of_succ_le_succ hfuel), Option.map_some]

theorem length_le_text (h : ∀ l ∈ ls, l.IsPlain) : ls.length ≤ (ls.flatMap Line.text).length := by
  induction ls with
  | nil => exact Nat.le_refl _
  | cons l ls ih =>
    obtain ⟨hl, hls⟩ := List.forall_mem_cons.mp h
    obtain ⟨c, cs, hcons, -⟩ := hl.exists_eq
    have hle := ih hls
    rw [List.flatMap_cons, hcons, List.length_append, List.length_cons, List.length_cons]
    omega

/-- **Plain lines are read back** from their text: it says what they say. -/
theorem read?_text (h : ∀ l ∈ ls, l.IsPlain) :
    read? (String.ofList (ls.flatMap Line.text)) = ofLines? ls := by
  -- No plain line starts with a mark of the byte order.
  have hmark (more : List Char) : ls.flatMap Line.text ≠ '\ufeff' :: more := by
    cases ls with
    | nil => nofun
    | cons l ls =>
      obtain ⟨c, cs, hcons, hc⟩ := (h l List.mem_cons_self).exists_eq
      rw [List.flatMap_cons, hcons, List.cons_append]
      intro heq
      rcases hc with rfl | hc
      · exact absurd (List.cons.inj heq).1 (by decide)
      · exact absurd (List.cons.inj heq).1 (ne_of_apart hc rfl)
  simp only [read?, String.toList_ofList]
  rw [lines?_text h (length_le_text h), Option.bind_some]

end Lines

/-! ## Documents of sections -/

/-- The lines of a section: its header and its members. -/
def sectionLines : String × Value → List Line
  | (name, .table members) => .header [name] :: members.map fun m => .assign [m.1] m.2
  | _ => []

/-- **A document of sections as it is written.** -/
def documentText (doc : List (String × Value)) : String :=
  String.ofList ((doc.flatMap sectionLines).flatMap Line.text)

/-- **A plain section**: a table of plain values, each under a key of its own. -/
def IsPlainSection (m : String × Value) : Prop :=
  IsBareKey m.1 ∧ ∃ members, m.2 = .table members ∧ (members.map Prod.fst).Nodup ∧
    ∀ e ∈ members, IsBareKey e.1 ∧ IsPlain e.2

/-- The node of a plain section. -/
def sectionNode : String × Value → String × Node
  | (name, .table members) => (name, .table .opened (members.map fun m => (m.1, .value m.2)))
  | (name, v) => (name, .value v)

namespace Members
variable {ms : Members} {key : String}

theorem find?_eq_none (h : key ∉ ms.map Prod.fst) : ms.find? key = none := by
  rw [find?, List.find?_eq_none.mpr, Option.map_none]
  intro m hm
  simpa using fun heq : m.1 = key => h (heq ▸ List.mem_map_of_mem hm)

theorem find?_append_self (h : key ∉ ms.map Prod.fst) (node : Node) :
    (ms ++ [(key, node)]).find? key = some node := by
  have hnone := find?_eq_none h
  rw [find?, Option.map_eq_none_iff] at hnone
  rw [find?, List.find?_append, hnone]
  simp

theorem put_of_new (h : key ∉ ms.map Prod.fst) (node : Node) :
    ms.put key node = ms ++ [(key, node)] := by
  induction ms with
  | nil => rfl
  | cons m ms ih =>
    rw [List.map_cons, List.mem_cons, not_or] at h
    rw [put, if_neg (Ne.symm h.1), ih h.2, List.cons_append]

theorem put_append_self (h : key ∉ ms.map Prod.fst) (node node' : Node) :
    (ms ++ [(key, node)]).put key node' = ms ++ [(key, node')] := by
  induction ms with
  | nil => simp [put]
  | cons m ms ih =>
    rw [List.map_cons, List.mem_cons, not_or] at h
    rw [List.cons_append, put, if_neg (Ne.symm h.1), ih h.2, List.cons_append]

end Members

namespace Draft
variable {ms inner : Members} {name : String}

theorem add_header (h : name ∉ ms.map Prod.fst) (current : List String) :
    Draft.add ⟨current, ms⟩ (.header [name]) =
      some ⟨[name], ms ++ [(name, .table .opened [])]⟩ := by
  simp [add, Members.within, Members.openTable, Members.find?_eq_none h, Members.put_of_new h]

theorem add_assign (h : name ∉ ms.map Prod.fst) {key : String} (hkey : key ∉ inner.map Prod.fst)
    (v : Value) :
    Draft.add ⟨[name], ms ++ [(name, .table .opened inner)]⟩ (.assign [key] v) =
      some ⟨[name], ms ++ [(name, .table .opened (inner ++ [(key, .value v)]))]⟩ := by
  simp [add, Members.within, Members.find?_append_self h, Members.assign,
    Members.find?_eq_none hkey, Members.put_append_self h]

/-- **The values of a section** come behind those that it has. -/
theorem foldlM_members (h : name ∉ ms.map Prod.fst) (inner : Members)
    {members : List (String × Value)}
    (hkeys : (members.map Prod.fst).Nodup)
    (hnew : ∀ key ∈ members.map Prod.fst, key ∉ inner.map Prod.fst) :
    (members.map fun m => Line.assign [m.1] m.2).foldlM Draft.add
        ⟨[name], ms ++ [(name, .table .opened inner)]⟩ =
      some ⟨[name], ms ++
        [(name, .table .opened (inner ++ members.map fun m => (m.1, .value m.2)))]⟩ := by
  induction members generalizing inner with
  | nil => simp
  | cons m members ih =>
    rw [List.map_cons, List.nodup_cons] at hkeys
    rw [List.map_cons, List.forall_mem_cons] at hnew
    rw [List.map_cons, List.foldlM_cons, add_assign h hnew.1, Option.bind_eq_bind, Option.bind_some,
      ih _ hkeys.2 ?_, List.map_cons, List.append_assoc, List.singleton_append]
    intro key hkey
    rw [List.map_append, List.mem_append, not_or]
    refine ⟨hnew.2 key hkey, fun hsame => ?_⟩
    rw [List.map_singleton, List.mem_singleton] at hsame
    exact hkeys.1 (hsame ▸ hkey)

/-- **The sections of a document** come behind those that are there. -/
theorem foldlM_sections (ms : Members) {doc : List (String × Value)}
    (hplain : ∀ m ∈ doc, IsPlainSection m)
    (hnames : (doc.map Prod.fst).Nodup) (hnew : ∀ name ∈ doc.map Prod.fst, name ∉ ms.map Prod.fst)
    (current : List String) :
    ∃ current', (doc.flatMap sectionLines).foldlM Draft.add ⟨current, ms⟩ =
      some ⟨current', ms ++ doc.map sectionNode⟩ := by
  induction doc generalizing ms current with
  | nil => exact ⟨current, by simp⟩
  | cons m doc ih =>
    obtain ⟨name, v⟩ := m
    obtain ⟨hm, hdoc⟩ := List.forall_mem_cons.mp hplain
    obtain ⟨-, members, rfl, hkeys, -⟩ := hm
    rw [List.map_cons, List.nodup_cons] at hnames
    rw [List.map_cons, List.forall_mem_cons] at hnew
    have hsection := foldlM_members hnew.1 [] hkeys fun _ _ => List.not_mem_nil
    have hlater : ∀ later ∈ doc.map Prod.fst,
        later ∉ (ms ++ [sectionNode (name, .table members)]).map Prod.fst := by
      intro later hlater
      rw [List.map_append, List.mem_append, not_or]
      refine ⟨hnew.2 later hlater, fun hsame => ?_⟩
      rw [List.map_singleton, List.mem_singleton] at hsame
      exact hnames.1 (hsame ▸ hlater)
    obtain ⟨current', hrest⟩ := ih _ hdoc hnames.2 hlater [name]
    refine ⟨current', ?_⟩
    rw [List.flatMap_cons, sectionLines, List.cons_append, List.foldlM_cons, add_header hnew.1,
      Option.bind_eq_bind, Option.bind_some, List.foldlM_append, hsection, Option.bind_eq_bind,
      Option.bind_some]
    exact hrest.trans (by rw [List.map_cons, List.append_assoc, List.singleton_append])

end Draft

theorem memberValues_value (members : List (String × Value)) :
    memberValues (members.map fun m => (m.1, .value m.2)) = members := by
  induction members with
  | nil => rw [List.map_nil, memberValues]
  | cons m members ih => rw [List.map_cons, memberValues, Node.toValue, ih]

theorem memberValues_sectionNode (doc : List (String × Value)) :
    memberValues (doc.map sectionNode) = doc := by
  induction doc with
  | nil => rw [List.map_nil, memberValues]
  | cons m doc ih =>
    obtain ⟨name, v⟩ := m
    rw [List.map_cons, sectionNode.eq_def]
    split
    · next heq =>
      cases heq
      rw [memberValues, Node.toValue, memberValues_value, ih]
    · next heq =>
      cases heq
      rw [memberValues, Node.toValue, ih]

/-- **A document of plain sections is read back** from how it is written. -/
theorem read?_documentText {doc : List (String × Value)} (hplain : ∀ m ∈ doc, IsPlainSection m)
    (hnames : (doc.map Prod.fst).Nodup) : read? (documentText doc) = some doc := by
  have hlines : ∀ l ∈ doc.flatMap sectionLines, l.IsPlain := by
    intro l hl
    obtain ⟨⟨name, v⟩, hm, hl⟩ := List.mem_flatMap.mp hl
    obtain ⟨hname, members, rfl, -, hmembers⟩ := hplain _ hm
    rw [sectionLines, List.mem_cons, List.mem_map] at hl
    rcases hl with rfl | ⟨e, he, rfl⟩
    · exact hname
    · exact hmembers e he
  obtain ⟨current, hread⟩ :=
    Draft.foldlM_sections [] hplain hnames (fun _ _ => List.not_mem_nil) []
  rw [documentText, read?_text hlines, ofLines?, hread, Option.map_some, List.nil_append,
    memberValues_sectionNode]

end PickupLedger.Toml
