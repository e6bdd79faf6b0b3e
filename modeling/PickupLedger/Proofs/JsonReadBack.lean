import PickupLedger.Json.Shape
import PickupLedger.Proofs.TimesReadBack

/-!
# JSON texts read back

What is read from the text of a value is the value (`Json.ofString_text`), for every value: any
string, any number as it is spelled, arrays and objects of any depth.

The reader is a machine with a stack, so each part of a text is read in front of whatever comes
behind it and under whatever is open around it (`Draft.run_write`).  Only a number has to know what
comes behind it, which must not be a part of a number (`Draft.EndsNumber`).
-/

namespace PickupLedger
open Text

namespace Json

/-! ## The draft of a value -/

mutual

/-- **The draft of a value**, in which nothing is broken. -/
def draft : Json → Draft
  | .null => .null
  | .bool b => .bool b
  | .number n => .number n
  | .string s => .string (some s)
  | .array vs => .array (itemDrafts vs) true
  | .object ms => .object (memberDrafts ms) true

/-- The drafts of items. -/
def itemDrafts : List Json → List Draft
  | [] => []
  | v :: vs => draft v :: itemDrafts vs

/-- The drafts of members. -/
def memberDrafts : List (String × Json) → List (Option String × Draft)
  | [] => []
  | (key, v) :: ms => (some key, draft v) :: memberDrafts ms

end

theorem itemDrafts_eq (vs : List Json) : itemDrafts vs = vs.map draft := by
  induction vs with
  | nil => rfl
  | cons v vs ih => rw [itemDrafts, ih, List.map_cons]

theorem memberDrafts_eq (ms : List (String × Json)) :
    memberDrafts ms = ms.map fun m => (some m.1, draft m.2) := by
  induction ms with
  | nil => rfl
  | cons m ms ih => rw [memberDrafts, ih, List.map_cons]

end Json

namespace Json.Draft

/-! ## Strings -/

theorem readChars?_quote (rest before : List Char) :
    readChars? ('\x22' :: rest) before true = some (some (String.ofList before.reverse), rest) := by
  rw [readChars?]
  simp

theorem readChars?_plain {c : Char} (hquote : c ≠ '\x22') (hslash : c ≠ '\x5c')
    (hc : ¬ c.toNat < 0x20) (rest before : List Char) (whole : Bool) :
    readChars? (c :: rest) before whole = readChars? rest (c :: before) whole := by
  rw [readChars?, if_neg hquote, if_neg hslash, if_neg hc]

theorem readChars?_escaped {rest rest' : List Char} {c : Char}
    (h : readEscape? rest = some (some c, rest')) (before : List Char) (whole : Bool) :
    readChars? ('\x5c' :: rest) before whole = readChars? rest' (c :: before) whole := by
  rw [readChars?, if_neg (by decide), if_pos rfl]
  split
  · next heq =>
    obtain ⟨rfl, rfl⟩ := by simpa using h.symm.trans heq
    rfl
  · next heq => cases h.symm.trans heq
  · next heq => cases h.symm.trans heq

theorem hexValue?_digit16 {n : Nat} (hn : n < 16) : hexValue? (escape.digit16 n) = some n := by
  have hall : ∀ i < 16, hexValue? (escape.digit16 i) = some i := by decide
  exact hall n hn

/-- A control character is read back from its number. -/
theorem readEscape?_control {c : Char} (hc : c.toNat < 0x20) (rest : List Char) :
    readEscape? ('u' :: '0' :: '0' :: escape.digit16 (c.toNat / 16) ::
      escape.digit16 (c.toNat % 16) :: rest) = some (some c, rest) := by
  have hzero : hexValue? '0' = some 0 := by decide
  have hunit : readUnit? ('0' :: '0' :: escape.digit16 (c.toNat / 16) ::
      escape.digit16 (c.toNat % 16) :: rest) = some (c.toNat, rest) := by
    rw [readUnit?, hzero, hexValue?_digit16 (by omega), hexValue?_digit16 (by omega)]
    simp only [Option.bind_eq_bind, Option.bind_some, Option.some.injEq, Prod.mk.injEq, and_true]
    omega
  rw [readEscape?, hunit]
  simp only
  rw [if_neg (by omega), if_neg (by omega), Char.ofNat_toNat]

/-- **A character is read back** from how it is written in a string. -/
theorem readChars?_escape (c : Char) (rest before : List Char) (whole : Bool) :
    readChars? (escape c ++ rest) before whole = readChars? rest (c :: before) whole := by
  rw [escape]
  -- Seven characters have a letter of their own.
  iterate 7
    split
    · next h =>
      rw [h]
      exact readChars?_escaped rfl before whole
  split
  · next h => exact readChars?_escaped (readEscape?_control h rest) before whole
  · next hquote hslash _ _ _ _ _ h => exact readChars?_plain hquote hslash h rest before whole

/-- **A string is read back**, in front of anything. -/
theorem readString?_stringChars (s : String) (rest : List Char) :
    readString? (s.toList.flatMap escape ++ '\x22' :: rest) = some (some s, rest) := by
  have hall : ∀ cs before : List Char,
      readChars? (cs.flatMap escape ++ '\x22' :: rest) before true =
        some (some (String.ofList (before.reverse ++ cs)), rest) := by
    intro cs
    induction cs with
    | nil =>
      intro before
      rw [List.flatMap_nil, List.nil_append, readChars?_quote, List.append_nil]
    | cons c cs ih =>
      intro before
      rw [List.flatMap_cons, List.append_assoc, readChars?_escape, ih, List.reverse_cons,
        List.append_assoc, List.singleton_append]
  rw [readString?, hall, List.reverse_nil, List.nil_append, String.ofList_toList]

/-! ## Numbers -/

/-- A fraction as it is written, with its point. -/
def fractionChars (ds : List (Fin 10)) : List Char :=
  if ds.isEmpty then [] else '.' :: ds.map fun d => Text.digit d.val

/-- An exponent as it is written, with its letter. -/
def exponentChars : Option Int → List Char
  | none => []
  | some e => 'e' :: ((if e < 0 then ['-'] else []) ++ Text.decimal e.natAbs)

theorem numeral_chars_eq (n : Numeral) : n.chars = (if n.negative then ['-'] else []) ++
    (decimal n.whole ++ (fractionChars n.fraction ++ exponentChars n.exponent)) := by
  obtain ⟨negative, whole, fraction, exponent⟩ := n
  cases exponent <;> simp only [Numeral.chars, fractionChars, exponentChars, List.append_assoc]

/-- What stands behind a number: it does not go on with it. -/
def EndsNumber (rest : List Char) : Prop :=
  ∀ c ∈ rest.head?, c.isDigit = false ∧ c ≠ '.' ∧ c ≠ 'e' ∧ c ≠ 'E'

/-- A run of digits in front of what is none. -/
theorem digits_append {ds rest : List Char} (hds : ∀ c ∈ ds, c.isDigit = true)
    (hrest : ∀ c ∈ rest.head?, c.isDigit = false) : digits (ds ++ rest) = ds := by
  rw [digits, List.takeWhile_append_of_pos hds]
  cases rest with
  | nil => simp
  | cons c rest => simp [hrest c rfl]

theorem isDigit_of_mem_decimal {n : Nat} {c : Char} (h : c ∈ decimal n) : c.isDigit = true :=
  Nat.isDigit_of_mem_toDigits (by decide) (by decide) h

/-- Only zero has a zero in front. -/
theorem decimal_eq_zero_or (n : Nat) :
    decimal n = ['0'] ∨ ∃ c cs, decimal n = c :: cs ∧ c ≠ '0' := by
  induction n using Nat.strongRecOn with
  | ind n ih =>
    rcases Nat.lt_or_ge n 10 with hlt | hge
    · have hall : ∀ i < 10, [digit i] = ['0'] ∨ digit i ≠ '0' := by decide
      rw [decimal_of_lt hlt]
      exact (hall n hlt).imp_right fun h => ⟨digit n, [], rfl, h⟩
    · rw [decimal_of_ge hge]
      obtain hzero | ⟨c, cs, hcons, hc⟩ := ih (n / 10) (by omega)
      · have hten : n / 10 = 0 := by rw [← number_decimal (n / 10), hzero]; rfl
        omega
      · exact .inr ⟨c, cs ++ [digit n], by rw [hcons, List.cons_append], hc⟩

/-- A number has no zero in front of other digits. -/
theorem readWhole?_decimal (n : Nat) {rest : List Char}
    (hrest : ∀ c ∈ rest.head?, c.isDigit = false) :
    readWhole? (decimal n ++ rest) = some (n, rest) := by
  have hdigits := digits_append (fun c => isDigit_of_mem_decimal (n := n)) hrest
  have hread : some (Text.number (decimal n), (decimal n ++ rest).drop (decimal n).length) =
      some (n, rest) := by rw [number_decimal, List.drop_left]
  rw [readWhole?, hdigits]
  obtain hzero | ⟨c, cs, hcons, hc⟩ := decimal_eq_zero_or n
  · rw [hzero] at hread ⊢
    exact hread
  · rw [hcons] at hread ⊢
    split
    · next h => cases h
    · next h => exact absurd (List.cons.inj h).1 hc
    · exact hread

/-- The digits of a fraction as they are written. -/
theorem digit_val (d : Fin 10) : Fin.ofNat 10 ((Text.digit d.val).toNat - 48) = d := by
  revert d
  decide

theorem readFraction?_chars (ds : List (Fin 10)) {rest : List Char}
    (hrest : ∀ c ∈ rest.head?, c.isDigit = false ∧ c ≠ '.') :
    readFraction? (fractionChars ds ++ rest) = some (ds, rest) := by
  cases ds with
  | nil =>
    rw [fractionChars, List.isEmpty_nil, if_pos rfl, List.nil_append, readFraction?.eq_def]
    split
    · exact absurd rfl (hrest '.' rfl).2
    · rfl
  | cons d ds =>
    have hall : ∀ c ∈ (d :: ds).map fun d : Fin 10 => Text.digit d.val, c.isDigit = true := by
      intro c hc
      obtain ⟨x, -, rfl⟩ := List.mem_map.mp hc
      exact isDigit_digit _
    have hdigits := digits_append hall fun c hc => (hrest c hc).1
    rw [fractionChars, List.isEmpty_cons, if_neg Bool.false_ne_true, List.cons_append, readFraction?]
    simp only [hdigits, List.drop_left]
    simp only [List.map_cons, List.isEmpty_cons, Bool.false_eq_true, if_false, List.map_map,
      Function.comp_def, digit_val, List.map_id_fun', id]

/-- Digits have no sign in front. -/
theorem takeSign_digits {ds rest : List Char} (hne : ds ≠ []) (hds : ∀ c ∈ ds, c.isDigit = true) :
    takeSign (ds ++ rest) = (false, ds ++ rest) := by
  obtain ⟨c, cs, rfl⟩ := List.exists_cons_of_ne_nil hne
  have hc := hds c List.mem_cons_self
  rw [List.cons_append, takeSign.eq_def]
  split
  · next h => rw [(List.cons.inj h).1] at hc; cases hc
  · next h => rw [(List.cons.inj h).1] at hc; cases hc
  · rfl

theorem decimal_ne_nil (n : Nat) : decimal n ≠ [] := by simp [decimal]

/-- **An exponent is read back**, or that there is none. -/
theorem readExponent?_chars (exponent : Option Int) {rest : List Char} (hrest : EndsNumber rest) :
    readExponent? (exponentChars exponent ++ rest) = some (exponent, rest) := by
  cases exponent with
  | none =>
    cases rest with
    | nil => rfl
    | cons c rest =>
      obtain ⟨-, -, he, hE⟩ := hrest c rfl
      rw [exponentChars, List.nil_append, readExponent?, if_neg (not_or.mpr ⟨he, hE⟩)]
  | some e =>
    have hdigit : ∀ c ∈ decimal e.natAbs, c.isDigit = true := fun c => isDigit_of_mem_decimal
    have hdigits := digits_append hdigit fun c hc => (hrest c hc).1
    have hsome : (decimal e.natAbs).isEmpty = false := by
      simpa using decimal_ne_nil e.natAbs
    have hsign : takeSign ((if e < 0 then ['-'] else []) ++ Text.decimal e.natAbs ++ rest) =
        (decide (e < 0), decimal e.natAbs ++ rest) := by
      by_cases he : e < 0
      · rw [if_pos he, decide_eq_true he]
        rfl
      · rw [if_neg he, decide_eq_false he, List.nil_append]
        exact takeSign_digits (decimal_ne_nil _) hdigit
    rw [exponentChars, List.cons_append, readExponent?, if_pos (.inl rfl), hsign]
    simp only [hdigits, hsome, Bool.false_eq_true, if_false, number_decimal, List.drop_left,
      decide_eq_true_eq, Option.some.injEq, Prod.mk.injEq, and_true]
    split <;> omega

/-- The parts of a number behind its sign. -/
theorem readNumeral?_parts {n : Numeral} {cs cs' cs'' rest : List Char}
    (hwhole : readWhole? cs = some (n.whole, cs'))
    (hfraction : readFraction? cs' = some (n.fraction, cs''))
    (hexponent : readExponent? cs'' = some (n.exponent, rest))
    (hhead : ∀ c ∈ cs.head?, c.isDigit = true) :
    readNumeral? ((if n.negative then ['-'] else []) ++ cs) = some (n, rest) := by
  obtain ⟨negative, whole, fraction, exponent⟩ := n
  have hnone : ∀ rest', cs ≠ '-' :: rest' := by
    rintro rest' rfl
    exact absurd (hhead '-' rfl) (by decide)
  cases negative with
  | true =>
    simp only [if_true, List.singleton_append, readNumeral?, hwhole, hfraction, hexponent,
      Option.bind_eq_bind, Option.bind_some]
  | false =>
    rw [if_neg Bool.false_ne_true, List.nil_append, readNumeral?.eq_2 cs hnone]
    simp only [hwhole, hfraction, hexponent, Option.bind_eq_bind, Option.bind_some]

/-- **A number is read back as it is spelled.** -/
theorem readNumeral?_chars (n : Numeral) {rest : List Char} (hrest : EndsNumber rest) :
    readNumeral? (n.chars ++ rest) = some (n, rest) := by
  have hstop : ∀ c ∈ (exponentChars n.exponent ++ rest).head?, c.isDigit = false ∧ c ≠ '.' := by
    cases n.exponent with
    | none => exact fun c hc => ⟨(hrest c hc).1, (hrest c hc).2.1⟩
    | some e => simp [exponentChars]
  have hpoint : ∀ c ∈ (fractionChars n.fraction ++ (exponentChars n.exponent ++ rest)).head?,
      c.isDigit = false := by
    cases n.fraction with
    | nil => exact fun c hc => (hstop c hc).1
    | cons d ds => simp [fractionChars]
  have hhead : ∀ c ∈ (decimal n.whole ++
      (fractionChars n.fraction ++ (exponentChars n.exponent ++ rest))).head?, c.isDigit = true := by
    obtain ⟨c, cs, hcons⟩ := List.exists_cons_of_ne_nil (decimal_ne_nil n.whole)
    have hc := isDigit_of_mem_decimal (hcons ▸ List.mem_cons_self : c ∈ decimal n.whole)
    rw [hcons]
    rintro _ ⟨⟩
    exact hc
  rw [numeral_chars_eq, List.append_assoc, List.append_assoc, List.append_assoc]
  exact readNumeral?_parts (readWhole?_decimal n.whole hpoint) (readFraction?_chars n.fraction hstop)
    (readExponent?_chars n.exponent hrest) hhead

/-! ## Steps of the machine -/

theorem skip_cons {c : Char} (h : isSpacing c = false) (cs : List Char) : skip (c :: cs) = c :: cs :=
  List.dropWhile_cons_of_neg (by simp [h])

theorem run_of_step {expected expected' : Expected} {stack stack' : List Frame}
    {cs rest : List Char} (h : step expected stack cs = .inl (expected', stack', rest)) :
    run expected stack cs = run expected' stack' rest := by
  rw [run]
  split
  · next heq =>
    obtain ⟨rfl, rfl, rfl⟩ := by simpa using heq.symm.trans h
    rfl
  · next heq => cases heq.symm.trans h

theorem run_of_end {expected : Expected} {stack : List Frame} {cs : List Char} {document : Document}
    (h : step expected stack cs = .inr document) : run expected stack cs = document := by
  rw [run]
  split
  · next heq => cases heq.symm.trans h
  · next heq => exact Sum.inr.inj (heq.symm.trans h)

section Steps
variable {stack : List Frame} {c : Char} {cs rest : List Char} {d : Draft}

/-- A scalar is a token of its own. -/
theorem run_scalar (hc : isSpacing c = false) (harray : c ≠ '[') (hobject : c ≠ '\x7b')
    (h : readScalar? (c :: cs) = some (d, rest)) :
    run .value stack (c :: cs) = run (.next d) stack rest := by
  refine run_of_step ?_
  rw [step.eq_def, skip_cons hc]
  split
  · next heq => exact absurd (List.cons.inj heq).1 harray
  · next heq => exact absurd (List.cons.inj heq).1 hobject
  · simp only [h]
  all_goals contradiction

theorem run_null : run .value stack ('n' :: 'u' :: 'l' :: 'l' :: rest) = run (.next .null) stack rest :=
  run_scalar (by decide) (by decide) (by decide) rfl

theorem run_bool (b : Bool) :
    run .value stack (write (.bool b) rest) = run (.next (.bool b)) stack rest := by
  cases b <;> exact run_scalar (by decide) (by decide) (by decide) rfl

theorem run_string (s : String) :
    run .value stack (stringChars s ++ rest) = run (.next (.string (some s))) stack rest := by
  have hread := readString?_stringChars s rest
  rw [stringChars, List.cons_append, List.append_assoc, List.singleton_append]
  refine run_scalar (by decide) (by decide) (by decide) ?_
  rw [readScalar?, hread]
  rfl

/-- A number begins with its sign or a digit. -/
theorem numeral_chars_cons (n : Numeral) :
    ∃ c cs, n.chars = c :: cs ∧ (c = '-' ∨ c.isDigit = true) := by
  obtain ⟨c, cs, hcons⟩ := List.exists_cons_of_ne_nil (decimal_ne_nil n.whole)
  have hc := isDigit_of_mem_decimal (hcons ▸ List.mem_cons_self : c ∈ decimal n.whole)
  rw [numeral_chars_eq, hcons]
  cases n.negative with
  | true => exact ⟨'-', _, rfl, .inl rfl⟩
  | false => exact ⟨c, _, rfl, .inr hc⟩

/-- What begins a number begins nothing else. -/
theorem ne_of_begins_numeral {c : Char} (h : c = '-' ∨ c.isDigit = true) :
    isSpacing c = false ∧ ∀ c' ∈ ['[', ']', '\x7b', '\x7d', '\x22', 'n', 't', 'f'], c ≠ c' := by
  constructor
  · refine Bool.eq_false_iff.mpr fun hspacing => ?_
    simp only [isSpacing, Bool.or_eq_true, beq_iff_eq] at hspacing
    obtain ((rfl | rfl) | rfl) | rfl := hspacing <;> exact absurd h (by decide)
  · rintro c' hc' rfl
    simp only [List.mem_cons, List.not_mem_nil, or_false] at hc'
    obtain rfl | rfl | rfl | rfl | rfl | rfl | rfl | rfl := hc' <;> exact absurd h (by decide)

theorem run_number (n : Numeral) (hrest : EndsNumber rest) :
    run .value stack (n.chars ++ rest) = run (.next (.number n)) stack rest := by
  have hread := readNumeral?_chars n hrest
  obtain ⟨c, cs, hcons, hc⟩ := numeral_chars_cons n
  obtain ⟨hspacing, hne⟩ := ne_of_begins_numeral hc
  rw [hcons, List.cons_append] at hread ⊢
  refine run_scalar hspacing (hne _ (by simp)) (hne _ (by simp)) ?_
  rw [readScalar?.eq_def]
  split
  · next heq => exact absurd (List.cons.inj heq).1 (hne _ (by simp))
  · next heq => exact absurd (List.cons.inj heq).1 (hne _ (by simp))
  · next heq => exact absurd (List.cons.inj heq).1 (hne _ (by simp))
  · next heq => exact absurd (List.cons.inj heq).1 (hne _ (by simp))
  · rw [hread]
    rfl

/-! ## Values -/

theorem endsNumber_cons {c : Char} (h : c = ',' ∨ c = ']' ∨ c = '\x7d') (cs : List Char) :
    EndsNumber (c :: cs) := by
  rintro _ ⟨⟩
  obtain rfl | rfl | rfl := h <;> decide

/-- What comes behind an item ends a number. -/
theorem endsNumber_writeItems (vs : List Json) (rest : List Char) :
    EndsNumber (writeItems vs rest) := by
  cases vs <;> exact endsNumber_cons (by simp) _

theorem endsNumber_writeMembers (ms : List (String × Json)) (rest : List Char) :
    EndsNumber (writeMembers ms rest) := by
  cases ms <;> exact endsNumber_cons (by simp) _

/-- **A value begins with a token of its own**, which closes nothing. -/
theorem write_cons (v : Json) (rest : List Char) :
    ∃ c cs, v.write rest = c :: cs ∧ isSpacing c = false ∧ c ≠ ']' := by
  cases v with
  | number n =>
    obtain ⟨c, cs, hcons, hc⟩ := numeral_chars_cons n
    obtain ⟨hspacing, hne⟩ := ne_of_begins_numeral hc
    exact ⟨c, cs ++ rest, by rw [write, hcons, List.cons_append], hspacing, hne _ (by simp)⟩
  | bool b => cases b <;> exact ⟨_, _, rfl, by decide, by decide⟩
  | array vs => cases vs <;> exact ⟨_, _, rfl, by decide, by decide⟩
  | object ms =>
    cases ms with
    | nil => exact ⟨_, _, rfl, by decide, by decide⟩
    | cons m ms => exact ⟨_, _, rfl, by decide, by decide⟩
  | _ => exact ⟨_, _, rfl, by decide, by decide⟩

theorem run_array_begin (v : Json) (more : List Char) :
    run .value stack ('[' :: v.write more) = run .value (.array [] :: stack) (v.write more) := by
  obtain ⟨c, cs, hcons, hspacing, hc⟩ := write_cons v more
  refine run_of_step ?_
  rw [hcons, step.eq_def, skip_cons (c := '[') (by decide)]
  simp only [skip_cons hspacing]
  split
  · next heq => exact absurd (List.cons.inj heq).1 hc
  · rfl

theorem run_object_begin (cs : List Char) :
    run .value stack ('\x7b' :: '\x22' :: cs) = run (.key []) stack ('\x22' :: cs) :=
  run_of_step rfl

theorem run_key (key : String) (before : List (Option String × Draft)) (cs : List Char) :
    run (.key before) stack (stringChars key ++ ':' :: cs) =
      run .value (.member before (some key) :: stack) cs := by
  have hread := readString?_stringChars key (':' :: cs)
  refine run_of_step ?_
  rw [stringChars, List.cons_append, List.append_assoc, List.singleton_append, step.eq_def,
    skip_cons (c := '\x22') (by decide)]
  simp only [hread, skip_cons (c := ':') (by decide)]

end Steps

mutual

/-- **A value is read in front of anything**, under whatever is open. -/
theorem run_write : ∀ (v : Json) (stack : List Frame) {rest : List Char}, EndsNumber rest →
    run .value stack (v.write rest) = run (.next v.draft) stack rest
  | .null, stack, rest, _ => run_null
  | .bool b, stack, rest, _ => run_bool b
  | .number n, stack, rest, h => run_number n h
  | .string s, stack, rest, _ => run_string s
  | .array [], stack, rest, _ => run_of_step rfl
  | .array (v :: vs), stack, rest, _ => by
    rw [write, run_array_begin, run_write v (.array [] :: stack) (endsNumber_writeItems vs rest),
      run_writeItems vs]
    rfl
  | .object [], stack, rest, _ => run_of_step rfl
  | .object ((key, v) :: ms), stack, rest, _ => by
    have hkey : run (.key []) stack (stringChars key ++ ':' :: v.write (writeMembers ms rest)) =
        run .value (.member [] (some key) :: stack) (v.write (writeMembers ms rest)) := run_key key [] _
    rw [stringChars, List.cons_append] at hkey
    rw [write, stringChars, List.cons_append, run_object_begin, hkey,
      run_write v (.member [] (some key) :: stack) (endsNumber_writeMembers ms rest),
      run_writeMembers ms]
    rfl

/-- The further items of an array. -/
theorem run_writeItems : ∀ (vs : List Json) (d : Draft) (before : List Draft) (stack : List Frame)
    (rest : List Char), run (.next d) (.array before :: stack) (writeItems vs rest) =
      run (.next (.array ((d :: before).reverse ++ itemDrafts vs) true)) stack rest
  | [], d, before, stack, rest => by
    rw [writeItems, itemDrafts, List.append_nil]
    exact run_of_step rfl
  | v :: vs, d, before, stack, rest => by
    have hcomma : run (.next d) (.array before :: stack) (',' :: v.write (writeItems vs rest)) =
        run .value (.array (d :: before) :: stack) (v.write (writeItems vs rest)) := run_of_step rfl
    rw [writeItems, hcomma, run_write v (.array (d :: before) :: stack) (endsNumber_writeItems vs rest),
      run_writeItems vs, itemDrafts, List.reverse_cons, List.append_assoc, List.singleton_append]

/-- The further members of an object. -/
theorem run_writeMembers : ∀ (ms : List (String × Json)) (key : Option String) (d : Draft)
    (before : List (Option String × Draft)) (stack : List Frame) (rest : List Char),
    run (.next d) (.member before key :: stack) (writeMembers ms rest) =
      run (.next (.object (((key, d) :: before).reverse ++ memberDrafts ms) true)) stack rest
  | [], key, d, before, stack, rest => by
    rw [writeMembers, memberDrafts, List.append_nil]
    exact run_of_step rfl
  | (key', v) :: ms, key, d, before, stack, rest => by
    have hcomma (cs : List Char) : run (.next d) (.member before key :: stack) (',' :: cs) =
        run (.key ((key, d) :: before)) stack cs := run_of_step rfl
    rw [writeMembers, hcomma, run_key,
      run_write v (.member ((key, d) :: before) (some key') :: stack)
        (endsNumber_writeMembers ms rest),
      run_writeMembers ms, memberDrafts, List.reverse_cons, List.append_assoc,
      List.singleton_append]

end

end Json.Draft

namespace Json

/-- **What is read from the text of a value is the value**, and nothing is left over. -/
theorem ofString_text (v : Json) : Draft.ofString v.text = ⟨v.draft, true⟩ := by
  have hrun : Draft.run .value [] (v.write []) = Draft.run (.next v.draft) [] [] :=
    Draft.run_write v [] nofun
  rw [Draft.ofString, text, String.toList_ofList, Draft.read, chars, hrun]
  exact Draft.run_of_end rfl

end Json
end PickupLedger
