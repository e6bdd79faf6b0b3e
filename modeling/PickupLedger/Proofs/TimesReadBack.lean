import PickupLedger.Proofs.StoredTimes
import PickupLedger.Time.Reading

/-!
# Stored times read back

A database holds a time as text, and what is read from that text is the time itself
(`Instant.read?_stored`): in every year, with every fraction, and in a leap second.

The reader takes the text apart from the left, so each part is read back in front of
whatever comes behind it.  A field of two digits is as long as a number may be; a year ends
at its hyphen, whatever the number of its digits; a fraction ends at an offset, which begins
with no digit.  That the date exists and leads back to its day is the calendar's part.
-/

namespace PickupLedger
open Text

/-! ## Digits -/

namespace Text

theorem isDigit_digit (n : Nat) : (digit n).isDigit = true := by
  have hall : ∀ i < 10, (Char.ofNat (48 + i)).isDigit = true := by decide
  exact hall _ (Nat.mod_lt _ (by decide))

theorem value_digit (n : Nat) : (digit n).toNat - '0'.toNat = n % 10 := by
  have hall : ∀ i < 10, (Char.ofNat (48 + i)).toNat - '0'.toNat = i := by decide
  exact hall _ (Nat.mod_lt _ (by decide))

theorem isBlank_of_isDigit {c : Char} (h : c.isDigit = true) : isBlank c = false := by
  simp only [Char.isDigit, Bool.and_eq_true, decide_eq_true_eq, UInt32.le_iff_toNat_le] at h
  have hlow : 48 ≤ c.toNat := h.1
  have hhigh : c.toNat ≤ 57 := h.2
  simp only [isBlank, Bool.or_eq_false_iff, Bool.and_eq_false_iff, decide_eq_false_iff_not,
    beq_eq_false_iff_ne]
  omega

theorem isDigit_of_mem_fixed {width n : Nat} {c : Char} (h : c ∈ fixed width n) :
    c.isDigit = true := by
  induction width generalizing n with
  | zero => cases h
  | succ width ih =>
    rcases List.mem_append.mp h with h | h
    · exact ih h
    · rw [List.mem_singleton.mp h]
      exact isDigit_digit n

/-- A field holds the last digits of its number. -/
theorem number_fixed (width n : Nat) : number (fixed width n) = n % 10 ^ width := by
  induction width generalizing n with
  | zero => simp [fixed, number, Nat.mod_one]
  | succ width ih =>
    have hfront : Nat.ofDigitChars 10 (fixed width (n / 10)) 0 = n / 10 % 10 ^ width := ih _
    rw [fixed, number, Nat.ofDigitChars_append, hfront, Nat.ofDigitChars_cons, value_digit,
      Nat.ofDigitChars_nil, Nat.pow_succ', Nat.mod_mul, Nat.add_comm]

theorem number_padded (width n : Nat) : number (padded width n) = n := by
  have hzeros : ∀ k, Nat.ofDigitChars 10 (List.replicate k '0') 0 = 0 := fun k => by
    induction k with
    | zero => rfl
    | succ k ih => exact ih
  rw [padded, number, Nat.ofDigitChars_append, hzeros]
  exact number_decimal n

/-- **A run of digits is taken off** a text if it is as long as may be, or ends there. -/
theorem takeDigits_append (most : Nat) {ds : List Char} (rest : List Char) (hne : ds ≠ [])
    (hds : ∀ c ∈ ds, c.isDigit = true) (hlen : ds.length ≤ most)
    (hstop : ds.length = most ∨ ∀ c ∈ rest.head?, c.isDigit = false) :
    takeDigits most (ds ++ rest) = some (ds, rest) := by
  have hrest : (rest.take (most - ds.length)).takeWhile Char.isDigit = [] := by
    rcases hstop with h | h
    · simp [h]
    · cases rest with
      | nil => simp
      | cons c rest =>
        have hc := h c rfl
        cases most - ds.length with
        | zero => rfl
        | succ k => simp [hc]
  have htaken : ((ds ++ rest).take most).takeWhile Char.isDigit = ds := by
    rw [List.take_append, List.take_of_length_le hlen, List.takeWhile_append_of_pos hds, hrest,
      List.append_nil]
  have hsome : ds.isEmpty = false := by simpa using hne
  rw [takeDigits, htaken]
  simp [hsome]

theorem dropBlanks_digits {ds rest : List Char} (hne : ds ≠ [])
    (hds : ∀ c ∈ ds, c.isDigit = true) : dropBlanks (ds ++ rest) = ds ++ rest := by
  cases ds with
  | nil => exact absurd rfl hne
  | cons c ds => exact dropBlanks_cons_of_not _ (isBlank_of_isDigit (hds c List.mem_cons_self))

end Text

namespace Instant

/-! ## Parts of a time -/

theorem readNumber?_fixed {n : Nat} (hn : n < 100) (rest : List Char) :
    readNumber? 2 (fixed 2 n ++ rest) = some (n, rest) := by
  have hne : fixed 2 n ≠ [] := List.ne_nil_of_length_pos (by simp)
  have hds : ∀ c ∈ fixed 2 n, c.isDigit = true := fun c => isDigit_of_mem_fixed
  rw [readNumber?, dropBlanks_digits hne hds,
    takeDigits_append 2 rest hne hds (by simp) (.inl (by simp))]
  simp only [Option.map_some, number_fixed, Nat.mod_eq_of_lt (a := n) (b := 10 ^ 2) hn]

theorem readMark?_cons {mark : Char} (h : isBlank mark = false) (rest : List Char) :
    readMark? mark (mark :: rest) = some rest := by
  rw [readMark?, dropBlanks_cons_of_not _ h]
  exact if_pos rfl

/-- A year that begins with a digit has no sign. -/
theorem readYear?_of_isDigit {c : Char} {cs : List Char} (hc : c.isDigit = true) :
    readYear? (c :: cs) = (takeDigits 4 (c :: cs)).map fun (ds, r) => ((number ds : Int), r) := by
  have hplus : c ≠ '+' := fun h => absurd (h ▸ hc) (by decide)
  have hminus : c ≠ '-' := fun h => absurd (h ▸ hc) (by decide)
  rw [readYear?, dropBlanks_cons_of_not _ (isBlank_of_isDigit hc)]
  split
  · next heq => exact absurd (List.cons.inj heq).1 hplus
  · next heq => exact absurd (List.cons.inj heq).1 hminus
  · rfl

/-- **A year is read back** in front of a hyphen. -/
theorem readYear?_yearText (year : Int) (rest : List Char) :
    readYear? (yearText year ++ '-' :: rest) = some (year, '-' :: rest) := by
  have hhyphen : ∀ c ∈ ('-' :: rest).head?, c.isDigit = false := by simp
  rw [yearText]
  split
  · next h =>
    have hyear : year.toNat < 10 ^ 4 := by omega
    have hne := padded_ne_nil 4 year.toNat
    have hds : ∀ c ∈ padded 4 year.toNat, c.isDigit = true := fun c => isDigit_of_mem_padded
    have hlen : (padded 4 year.toNat).length ≤ 4 := by rw [padded_eq_fixed hyear]; simp
    have htake := takeDigits_append 4 ('-' :: rest) hne hds hlen (.inr hhyphen)
    obtain ⟨c, cs, heq⟩ := List.exists_cons_of_ne_nil hne
    rw [heq] at htake hds ⊢
    rw [List.cons_append] at htake ⊢
    rw [readYear?_of_isDigit (hds c List.mem_cons_self), htake, ← heq]
    simp only [Option.map_some, number_padded, Int.toNat_of_nonneg h.1]
  · next h =>
    have hne := padded_ne_nil 4 year.natAbs
    have hds : ∀ c ∈ padded 4 year.natAbs, c.isDigit = true := fun c => isDigit_of_mem_padded
    have htake := takeDigits_append (padded 4 year.natAbs ++ '-' :: rest).length ('-' :: rest)
      hne hds (by simp) (.inr hhyphen)
    split
    · next hneg =>
      rw [List.cons_append, readYear?, dropBlanks_cons_of_not _ (by decide)]
      simp only [htake, Option.map_some, number_padded, Option.some.injEq, Prod.mk.injEq, and_true]
      omega
    · next hpos =>
      rw [List.cons_append, readYear?, dropBlanks_cons_of_not _ (by decide)]
      simp only [htake, Option.map_some, number_padded, Option.some.injEq, Prod.mk.injEq, and_true]
      omega

theorem readDate?_dateText {c : Civil} (hc : IsDate c) (rest : List Char) :
    readDate? (yearText c.year ++ '-' :: fixed 2 c.month ++ '-' :: fixed 2 c.day ++ rest) =
      some (c, rest) := by
  have hmonth : c.month < 100 := Nat.lt_of_le_of_lt hc.1.1.2 (by decide)
  have hday : c.day < 100 := by
    have hlast : Civil.daysIn c.year c.month ≤ 31 := by
      rw [Civil.daysIn]
      split
      · split <;> decide
      · split <;> decide
    exact Nat.lt_of_le_of_lt (Nat.le_trans hc.1.2.2 hlast) (by decide)
  simp only [List.append_assoc, List.cons_append, readDate?, readYear?_yearText,
    readMark?_cons (by decide : isBlank '-' = false), readNumber?_fixed hmonth,
    readNumber?_fixed hday, Option.bind_eq_bind, Option.bind_some]
  exact if_pos hc

/-- What stands behind a time of day: it goes on neither with a digit nor with a point. -/
def EndsTime (rest : List Char) : Prop := ∀ c ∈ rest.head?, c.isDigit = false ∧ c ≠ '.'

/-- A field of digits behind a point, and the power of ten that makes nanoseconds of it. -/
theorem readFraction?_field {width n : Nat} {rest : List Char} (hrest : EndsTime rest)
    (hpos : 0 < width) (hwidth : width ≤ 9) (hn : n < 10 ^ width) :
    readFraction? ('.' :: fixed width n ++ rest) = some (n * 10 ^ (9 - width), rest) := by
  have hne : fixed width n ≠ [] := List.ne_nil_of_length_pos (by simpa using hpos)
  have htake := takeDigits_append 9 rest hne
    (fun c => isDigit_of_mem_fixed) (by simpa using hwidth) (.inr fun c hc => (hrest c hc).1)
  have hdrop : rest.dropWhile Char.isDigit = rest := by
    cases rest with
    | nil => rfl
    | cons c rest =>
      rw [List.dropWhile_cons_of_neg]
      simpa using (hrest c rfl).1
  simp only [List.cons_append, readFraction?, htake, Option.map_some, number_fixed,
    Nat.mod_eq_of_lt hn, length_fixed, hdrop]
  rfl

/-- **A fraction is read back** in front of the end of a time. -/
theorem readFraction?_fractionText {nanos : Nat} (hnanos : nanos < 1000000000) {rest : List Char}
    (hrest : EndsTime rest) : readFraction? (fractionText nanos ++ rest) = some (nanos, rest) := by
  rw [fractionText]
  split
  · next h =>
    rw [List.nil_append, h]
    cases rest with
    | nil => rfl
    | cons c rest =>
      unfold readFraction?
      split
      · next heq => exact absurd (List.cons.inj heq).1 (hrest c rfl).2
      · rfl
  · split
    · rw [readFraction?_field hrest (by decide) (by decide) (by omega)]
      simp only [Option.some.injEq, Prod.mk.injEq, and_true]
      omega
    · split
      · rw [readFraction?_field hrest (by decide) (by decide) (by omega)]
        simp only [Option.some.injEq, Prod.mk.injEq, and_true]
        omega
      · rw [readFraction?_field hrest (by decide) (by decide) hnanos]
        simp

theorem readClock?_clockText {hour minute second nanos : Nat} (hhour : hour ≤ 23)
    (hminute : minute ≤ 59) (hsecond : second ≤ 60) (hnanos : nanos < 1000000000)
    {rest : List Char} (hrest : EndsTime rest) :
    readClock? (fixed 2 hour ++ ':' :: fixed 2 minute ++ ':' :: fixed 2 second ++
      fractionText nanos ++ rest) = some (⟨hour, minute, second, nanos⟩, rest) := by
  simp only [List.append_assoc, List.cons_append, readClock?,
    readMark?_cons (by decide : isBlank ':' = false), readNumber?_fixed (by omega : hour < 100),
    readNumber?_fixed (by omega : minute < 100), readNumber?_fixed (by omega : second < 100),
    readFraction?_fractionText hnanos hrest, Option.bind_eq_bind, Option.bind_some]
  exact if_pos ⟨hhour, hminute, hsecond⟩

/-! ## The whole time -/

/-- The date of an instant exists and is in a year that an instant has. -/
theorem isDate_date (i : Instant) : IsDate i.date := by
  have hfirst : -96465292 ≤ i.seconds / 86400 := by
    have h := i.first_le
    rw [firstSecond] at h
    omega
  have hlast : i.seconds / 86400 ≤ 95026236 := by
    have h := i.le_last
    rw [lastSecond] at h
    omega
  rw [date]
  refine ⟨Civil.valid_ofDayNumber _, ?_, ?_⟩
  · have hdate : Civil.ofDayNumber (-96465292) = ⟨firstYear, 1, 1⟩ := by decide
    rcases Int.lt_or_eq_of_le hfirst with h | h
    · have hbefore := Civil.before_ofDayNumber h
      simp only [hdate, Civil.Before] at hbefore
      omega
    · exact Int.le_of_eq (by rw [← h, hdate])
  · have hdate : Civil.ofDayNumber 95026236 = ⟨lastYear, 12, 31⟩ := by decide
    rcases Int.lt_or_eq_of_le hlast with h | h
    · have hbefore := Civil.before_ofDayNumber h
      simp only [hdate, Civil.Before] at hbefore
      omega
    · exact Int.le_of_eq (by rw [h, hdate])

/-- **Date and time of day make the instant again.** -/
theorem ofLocal?_parts (i : Instant) : ofLocal? i.date
    ⟨i.secondOfDay / 3600, i.secondOfDay / 60 % 60, i.secondOfMinute, i.nanos % 1000000000⟩ 0 =
      some i := by
  have hnanos := i.nanos_lt
  have hday : ((i.secondOfDay : Nat) : Int) = i.seconds % 86400 := by
    rw [secondOfDay]
    omega
  simp only [ofLocal?, date, Civil.dayNumber_ofDayNumber]
  by_cases hleap : 1000000000 ≤ i.nanos
  · -- A leap second is written as second 60 of a minute that it ends.
    have hlast := i.leap hleap
    have hsixty : i.secondOfMinute = 60 := by
      rw [secondOfMinute, if_pos hleap]
      omega
    have hseconds : i.seconds / 86400 * 86400 + ((i.secondOfDay / 3600 * 3600 +
        i.secondOfDay / 60 % 60 * 60 + 59 : Nat) : Int) - 0 = i.seconds := by omega
    have hparts : i.nanos % 1000000000 + 1000000000 = i.nanos := by omega
    simp only [hsixty, if_true]
    rw [hseconds, hparts, ofParts?_self]
  · have hsecond : i.secondOfMinute = i.secondOfDay % 60 := by
      rw [secondOfMinute, if_neg hleap, Nat.add_zero]
    have hsixty : ¬ i.secondOfDay % 60 = 60 := by omega
    have hseconds : i.seconds / 86400 * 86400 + ((i.secondOfDay / 3600 * 3600 +
        i.secondOfDay / 60 % 60 * 60 + i.secondOfDay % 60 : Nat) : Int) - 0 = i.seconds := by omega
    have hparts : i.nanos % 1000000000 + 0 = i.nanos := by omega
    simp only [hsecond, hsixty, if_false]
    rw [hseconds, hparts, ofParts?_self]

/-- An instant is read back in front of any offset that is none. -/
theorem read?_localText (i : Instant) {suffix : List Char} (hblank : dropBlanks suffix = suffix)
    (hoffset : readOffset? suffix = some (0, [])) (hends : EndsTime suffix) :
    read? (i.localText ++ suffix) = some i := by
  have hhour : i.secondOfDay / 3600 ≤ 23 := by
    rw [secondOfDay]
    omega
  have hsecond : i.secondOfMinute ≤ 60 := by
    rw [secondOfMinute]
    split <;> omega
  have hminute : i.secondOfDay / 60 % 60 ≤ 59 := by omega
  have hnanos : i.nanos % 1000000000 < 1000000000 := by omega
  have hclock := readClock?_clockText hhour hminute hsecond hnanos hends
  have hdate := readDate?_dateText (isDate_date i)
  simp only [List.append_assoc, List.cons_append] at hclock hdate
  simp only [localText, List.append_assoc, List.cons_append, read?, hdate, Option.bind_eq_bind,
    Option.bind_some, readJoint?, true_or, if_true, hclock, hblank, hoffset]
  exact ofLocal?_parts i

/-- **What a database holds of an instant reads back as the instant.** -/
theorem read?_stored (i : Instant) : read? i.stored = some i :=
  read?_localText i (by decide) (by decide) (by simp [EndsTime])

end Instant
end PickupLedger
