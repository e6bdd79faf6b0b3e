import Mathlib.Algebra.Group.Nat.Defs
import PickupLedger.Database.State
import PickupLedger.Proofs.Calendar

/-!
# The order of stored times

Records hold their times as text, and a database compares the text.  Behind the year that is
the order of the times themselves (`Instant.stored_lt`): up to the second, a time is five
fields of fixed width from the month down, and a leap second is a second 60.  Behind it
stand up to three groups of three digits, and they end where nothing is left; what comes
next is the offset, whose `+` is before the point and before all digits.

So all depends on the years (`Instant.InLine`).  From 0 to 9999 they have four digits and are
in the order of their texts; outside a year has a sign and may have a fifth digit, and the
order is another.
-/

namespace PickupLedger
open Text

/-! ## Fields of digits -/

namespace Text

theorem digit_lt {n m : Nat} (h : n % 10 < m % 10) : digit n < digit m := by
  have hall : ∀ i < 10, ∀ j < 10, i < j → Char.ofNat (48 + i) < Char.ofNat (48 + j) := by decide
  exact hall _ (Nat.mod_lt _ (by decide)) _ (Nat.mod_lt _ (by decide)) h

/-- Digits come after the sign of an offset. -/
theorem plus_lt_digit (n : Nat) : '+' < digit n := by
  have hall : ∀ i < 10, '+' < Char.ofNat (48 + i) := by decide
  exact hall _ (Nat.mod_lt _ (by decide))

theorem digitChar_eq_digit (n : Nat) : Nat.digitChar (n % 10) = digit n := by
  have hall : ∀ i < 10, Nat.digitChar i = Char.ofNat (48 + i) := by decide
  exact hall _ (Nat.mod_lt _ (by decide))

/-- What comes behind two texts of one length does not change their order. -/
theorem append_lt_append {xs ys : List Char} (hlen : xs.length = ys.length) (h : xs < ys)
    (zs ws : List Char) : xs ++ zs < ys ++ ws := by
  induction xs generalizing ys with
  | nil =>
    cases ys with
    | nil => exact absurd h (List.lt_irrefl [])
    | cons y ys => cases hlen
  | cons x xs ih =>
    cases ys with
    | nil => cases hlen
    | cons y ys =>
      rw [List.cons_append, List.cons_append, List.cons_lt_cons_iff]
      rcases List.cons_lt_cons_iff.mp h with hxy | ⟨hxy, h⟩
      · exact .inl hxy
      · exact .inr ⟨hxy, ih (Nat.succ.inj hlen) h⟩

/-- Of two numbers that fit, the smaller one is the earlier text. -/
theorem fixed_lt {width n m : Nat} (hm : m < 10 ^ width) (h : n < m) :
    fixed width n < fixed width m := by
  induction width generalizing n m with
  | zero => omega
  | succ width ih =>
    rw [Nat.pow_succ] at hm
    simp only [fixed]
    rcases Nat.lt_or_ge (n / 10) (m / 10) with hlt | hge
    · exact append_lt_append (by simp) (ih (by omega) hlt) _ _
    · have hsame : n / 10 = m / 10 := by omega
      rw [hsame]
      exact List.append_left_lt (List.cons_lt_cons_iff.mpr (.inl (digit_lt (by omega))))

/-- **A field in front** decides, and if it is the same what is behind it decides. -/
theorem fixed_append_lt {width n m : Nat} {xs ys : List Char} (hm : m < 10 ^ width)
    (h : n < m ∨ n = m ∧ xs < ys) : fixed width n ++ xs < fixed width m ++ ys := by
  rcases h with h | ⟨rfl, h⟩
  · exact append_lt_append (by simp) (fixed_lt hm h) _ _
  · exact List.append_left_lt h

/-- The same for a field with a mark behind it. -/
theorem fixed_cons_lt {width n m : Nat} {mark : Char} {xs ys : List Char} (hm : m < 10 ^ width)
    (h : n < m ∨ n = m ∧ xs < ys) :
    fixed width n ++ mark :: xs < fixed width m ++ mark :: ys :=
  fixed_append_lt hm (h.imp_right fun h => ⟨h.1, List.cons_lt_cons_iff.mpr (.inr ⟨rfl, h.2⟩)⟩)

theorem padded_ne_nil (width n : Nat) : padded width n ≠ [] := by simp [padded, decimal]

theorem isDigit_of_mem_padded {width n : Nat} {c : Char} (h : c ∈ padded width n) :
    c.isDigit = true := by
  rcases List.mem_append.mp h with h | h
  · rw [List.eq_of_mem_replicate h]
    decide
  · exact Nat.isDigit_of_mem_toDigits (by decide) (by decide) h

theorem hyphen_lt_of_isDigit {c : Char} (h : c.isDigit = true) : '-' < c := by
  simp only [Char.isDigit, Bool.and_eq_true, decide_eq_true_eq, UInt32.le_iff_toNat_le] at h
  have hlow : 48 ≤ c.toNat := h.1
  show 45 < c.toNat
  omega

/-- Digits with a hyphen behind them are in the order of the digits: where one text is at its
end, the hyphen comes before what is left of the other. -/
theorem hyphen_append_lt {xs ys : List Char} (h : xs < ys) (hdigits : ∀ c ∈ ys, c.isDigit = true)
    (zs ws : List Char) : xs ++ '-' :: zs < ys ++ '-' :: ws := by
  induction xs generalizing ys with
  | nil =>
    cases ys with
    | nil => exact absurd h (List.lt_irrefl [])
    | cons y ys =>
      exact List.cons_lt_cons_iff.mpr (.inl (hyphen_lt_of_isDigit (hdigits y List.mem_cons_self)))
  | cons x xs ih =>
    cases ys with
    | nil => exact absurd h (List.not_lt_nil _)
    | cons y ys =>
      rcases List.cons_lt_cons_iff.mp h with hxy | ⟨hxy, h⟩
      · exact List.cons_lt_cons_iff.mpr (.inl hxy)
      · exact List.cons_lt_cons_iff.mpr
          (.inr ⟨hxy, ih h fun c hc => hdigits c (List.mem_cons_of_mem y hc)⟩)

/-- The digits of a number are those of its two parts. -/
theorem fixed_add (v w n : Nat) : fixed (v + w) n = fixed v (n / 10 ^ w) ++ fixed w n := by
  induction w generalizing n with
  | zero => simp [fixed]
  | succ w ih =>
    have hdiv : n / 10 ^ (w + 1) = n / 10 / 10 ^ w := by
      rw [Nat.pow_succ, Nat.mul_comm, Nat.div_div_eq_div_mul]
    rw [hdiv, ← Nat.add_assoc, fixed, ih, fixed, List.append_assoc]

/-- Only the last digits are looked at. -/
theorem fixed_mod (width n : Nat) : fixed width (n % 10 ^ width) = fixed width n := by
  induction width generalizing n with
  | zero => rfl
  | succ width ih =>
    have hdiv : n % 10 ^ (width + 1) / 10 = n / 10 % 10 ^ width := by
      rw [Nat.pow_succ, Nat.mul_comm, Nat.mod_mul_right_div_self]
    have hdigit : n % 10 ^ (width + 1) % 10 = n % 10 :=
      Nat.mod_mod_of_dvd n ⟨10 ^ width, Nat.pow_succ'⟩
    rw [fixed, fixed, hdiv, ih, digit, digit, hdigit]

theorem decimal_of_lt {n : Nat} (h : n < 10) : decimal n = [digit n] := by
  rw [decimal, Nat.toDigits_of_lt_base h, ← digitChar_eq_digit, Nat.mod_eq_of_lt h]

theorem decimal_of_ge {n : Nat} (h : 10 ≤ n) : decimal n = decimal (n / 10) ++ [digit n] := by
  rw [decimal, Nat.toDigits_of_base_le (by decide) h, digitChar_eq_digit, decimal]

/-- A number that fits is filled up to its last digits. -/
theorem padded_eq_fixed {width n : Nat} (h : n < 10 ^ (width + 1)) :
    padded (width + 1) n = fixed (width + 1) n := by
  induction width generalizing n with
  | zero => rw [padded, decimal_of_lt h]; rfl
  | succ width ih =>
    rw [Nat.pow_succ] at h
    have hfront := ih (n := n / 10) (by omega)
    rw [fixed, ← hfront, padded, padded]
    rcases Nat.lt_or_ge n 10 with hlt | hge
    · have hzero : n / 10 = 0 := by omega
      rw [hzero, decimal_of_lt hlt, decimal_of_lt (by decide : 0 < 10)]
      simp [List.replicate_succ', digit]
    · rw [decimal_of_ge hge]
      simp

end Text

/-! ## Instants -/

namespace Instant

/-- The instant lies in the years 0 to 9999. -/
def InYears (i : Instant) : Prop := 0 ≤ i.date.year ∧ i.date.year ≤ 9999

instance (i : Instant) : Decidable i.InYears := inferInstanceAs (Decidable (_ ∧ _))

/-- The offset of stored times. -/
def offset : List Char := ['+', '0', '0', ':', '0', '0']

/-- The fraction of a second with the offset behind it, group by group. -/
def groups (nanos : Nat) : List Char :=
  if nanos = 0 then offset
  else '.' :: (fixed 3 (nanos / 1000000) ++
    if nanos % 1000000 = 0 then offset
    else fixed 3 (nanos / 1000 % 1000) ++
      if nanos % 1000 = 0 then offset else fixed 3 (nanos % 1000) ++ offset)

theorem fractionText_append (nanos : Nat) : fractionText nanos ++ offset = groups nanos := by
  have hmod : ∀ n, fixed 3 (n % 1000) = fixed 3 n := fixed_mod 3
  have hsix : ∀ n, fixed 6 n = fixed 3 (n / 1000) ++ fixed 3 (n % 1000) := fun n => by
    rw [hmod]
    exact fixed_add 3 3 n
  have hnine : fixed 9 nanos = fixed 6 (nanos / 1000) ++ fixed 3 (nanos % 1000) := by
    rw [hmod]
    exact fixed_add 6 3 nanos
  rw [fractionText, groups]
  split
  · rfl
  · split
    · rfl
    · split
      · rw [hsix, Nat.div_div_eq_div_mul]
        simp
      · rw [hnine, hsix, Nat.div_div_eq_div_mul]
        simp

/-- The offset comes before a group of digits. -/
theorem offset_lt_fixed (width n : Nat) (xs : List Char) : offset < fixed (width + 1) n ++ xs := by
  induction width generalizing n xs with
  | zero => exact List.cons_lt_cons_iff.mpr (.inl (plus_lt_digit n))
  | succ width ih =>
    rw [fixed, List.append_assoc]
    exact ih _ _

/-- A smaller fraction is the earlier text: where its groups end, the offset comes before
what is left of the other. -/
theorem groups_lt {n m : Nat} (h : n < m) (hm : m < 1000000000) : groups n < groups m := by
  -- Of the later fraction something is left wherever the groups were the same so far.
  rw [groups, groups, if_neg (by omega : ¬ m = 0)]
  split
  · exact List.cons_lt_cons_iff.mpr (.inl (by decide))
  refine List.cons_lt_cons_iff.mpr (.inr ⟨rfl, fixed_append_lt (by omega) ?_⟩)
  rcases Nat.lt_or_ge (n / 1000000) (m / 1000000) with hfirst | hfirst
  · exact .inl hfirst
  refine .inr ⟨by omega, ?_⟩
  rw [if_neg (by omega : ¬ m % 1000000 = 0)]
  split
  · exact offset_lt_fixed 2 _ _
  refine fixed_append_lt (by omega) ?_
  rcases Nat.lt_or_ge (n / 1000 % 1000) (m / 1000 % 1000) with hsecond | hsecond
  · exact .inl hsecond
  refine .inr ⟨by omega, ?_⟩
  rw [if_neg (by omega : ¬ m % 1000 = 0)]
  split
  · exact offset_lt_fixed 2 _ _
  · exact fixed_append_lt (by omega) (.inl (by omega))

/-- What a stored time has behind its year, field by field. -/
def behindYear (i : Instant) : List Char :=
  fixed 2 i.date.month ++ '-' :: (fixed 2 i.date.day ++
    'T' :: (fixed 2 (i.secondOfDay / 3600) ++ ':' :: (fixed 2 (i.secondOfDay / 60 % 60) ++
      ':' :: (fixed 2 i.secondOfMinute ++ groups (i.nanos % 1000000000)))))

/-- **A stored time** is its year and what is behind it. -/
theorem stored_eq (i : Instant) : i.stored = yearText i.date.year ++ '-' :: i.behindYear := by
  rw [stored, localText, behindYear, ← fractionText_append, offset]
  simp only [List.append_assoc, List.cons_append]

/-- The text of a year goes on with digits. -/
theorem exists_yearText (year : Int) :
    ∃ first rest, yearText year = first :: rest ∧ ∀ c ∈ rest, c.isDigit = true := by
  rw [yearText]
  split
  · obtain ⟨first, rest, heq⟩ := List.exists_cons_of_ne_nil (padded_ne_nil 4 year.toNat)
    refine ⟨first, rest, heq, fun c hc => ?_⟩
    have hmem : c ∈ padded 4 year.toNat := heq ▸ List.mem_cons_of_mem _ hc
    exact isDigit_of_mem_padded hmem
  · exact ⟨_, _, rfl, fun c => isDigit_of_mem_padded⟩

/-- **Times of different years** are in the order of the texts of their years. -/
theorem stored_lt_of_yearText {a b : Instant}
    (h : yearText a.date.year < yearText b.date.year) : a.stored < b.stored := by
  rw [stored_eq, stored_eq]
  obtain ⟨x, xs, hx, -⟩ := exists_yearText a.date.year
  obtain ⟨y, ys, hy, hdigits⟩ := exists_yearText b.date.year
  rw [hx, hy] at h ⊢
  rw [List.cons_append, List.cons_append]
  rcases List.cons_lt_cons_iff.mp h with hxy | ⟨hxy, h⟩
  · exact List.cons_lt_cons_iff.mpr (.inl hxy)
  · exact List.cons_lt_cons_iff.mpr (.inr ⟨hxy, hyphen_append_lt h hdigits _ _⟩)

/-- **The years of two times are in line**: the earlier one is the earlier text. -/
def InLine (a b : Instant) : Prop :=
  (a.date.year < b.date.year → yearText a.date.year < yearText b.date.year) ∧
    (b.date.year < a.date.year → yearText b.date.year < yearText a.date.year)

instance (a b : Instant) : Decidable (a.InLine b) := inferInstanceAs (Decidable (_ ∧ _))

theorem InLine.symm {a b : Instant} (h : a.InLine b) : b.InLine a := And.symm h

/-- The years 0 to 9999 are in line. -/
theorem InYears.inLine {a b : Instant} (ha : a.InYears) (hb : b.InYears) : a.InLine b := by
  have hfour {i : Instant} (h : i.InYears) : yearText i.date.year = fixed 4 i.date.year.toNat := by
    have hlast := h.2
    rw [yearText, if_pos ⟨h.1, h.2⟩, padded_eq_fixed (by omega)]
  rw [InLine, hfour ha, hfour hb]
  obtain ⟨hfirst, hlast⟩ := ha
  obtain ⟨hfirst', hlast'⟩ := hb
  exact ⟨fun h => fixed_lt (by omega) (by omega), fun h => fixed_lt (by omega) (by omega)⟩

/-- Of two dates of one year the earlier one is the earlier text, whatever is behind it. -/
theorem dateText_lt {m m' d d' : Nat} (h : m < m' ∨ m = m' ∧ d < d') (hmonth : m' < 100)
    (hday : d' < 100) (xs ys : List Char) :
    fixed 2 m ++ '-' :: (fixed 2 d ++ xs) < fixed 2 m' ++ '-' :: (fixed 2 d' ++ ys) :=
  fixed_cons_lt hmonth (h.imp_right fun h => ⟨h.1, fixed_append_lt hday (.inl h.2)⟩)

/-- An earlier second of the day is the earlier text. -/
theorem clockText_lt {s s' leap leap' : Nat} (h : s < s') (hlast : s' < 86400) (hleap : leap ≤ 1)
    (hend : leap = 1 → s % 60 = 59) (hleap' : leap' ≤ 1) (xs ys : List Char) :
    fixed 2 (s / 3600) ++ ':' :: (fixed 2 (s / 60 % 60) ++ ':' :: (fixed 2 (s % 60 + leap) ++ xs)) <
      fixed 2 (s' / 3600) ++ ':' ::
        (fixed 2 (s' / 60 % 60) ++ ':' :: (fixed 2 (s' % 60 + leap') ++ ys)) := by
  refine fixed_cons_lt (by omega) ?_
  rcases Nat.lt_or_ge (s / 3600) (s' / 3600) with hhour | hhour
  · exact .inl hhour
  refine .inr ⟨by omega, fixed_cons_lt (by omega) ?_⟩
  rcases Nat.lt_or_ge (s / 60 % 60) (s' / 60 % 60) with hminute | hminute
  · exact .inl hminute
  -- A leap second is the last of its minute, so the earlier of two in one minute is none.
  · exact .inr ⟨by omega, fixed_append_lt (by omega) (.inl (by omega))⟩

/-- Of two times the earlier one has the earlier date, or the same one. -/
theorem date_before_or_eq {a b : Instant} (h : a.seconds ≤ b.seconds) :
    a.date.Before b.date ∨ a.date = b.date ∧ a.seconds / 86400 = b.seconds / 86400 := by
  rcases Int.lt_or_le (a.seconds / 86400) (b.seconds / 86400) with hday | hday
  · exact .inl (Civil.before_ofDayNumber hday)
  · have hsame : a.seconds / 86400 = b.seconds / 86400 := by omega
    exact .inr ⟨congrArg Civil.ofDayNumber hsame, hsame⟩

/-- **Of two times the earlier one is the earlier text**, if their years are in line. -/
theorem stored_lt {a b : Instant} (hline : a.InLine b)
    (h : a.seconds < b.seconds ∨ a.seconds = b.seconds ∧ a.nanos < b.nanos) :
    a.stored < b.stored := by
  have hbound := Civil.ofDayNumber_lt (b.seconds / 86400)
  have hleap := a.leap
  rcases date_before_or_eq (show a.seconds ≤ b.seconds by omega) with hbefore | ⟨hdate, hday⟩
  · rcases hbefore with hyear | ⟨hyear, hbefore⟩
    · exact stored_lt_of_yearText (hline.1 hyear)
    · rw [stored_eq, stored_eq, hyear]
      exact List.append_left_lt (List.cons_lt_cons_iff.mpr
        (.inr ⟨rfl, dateText_lt hbefore hbound.1 hbound.2 _ _⟩))
  rw [stored_eq, stored_eq, behindYear, behindYear, hdate]
  refine List.append_left_lt (List.cons_lt_cons_iff.mpr (.inr ⟨rfl, ?_⟩))
  refine fixed_cons_lt hbound.1 (.inr ⟨rfl, fixed_cons_lt hbound.2 (.inr ⟨rfl, ?_⟩)⟩)
  rcases h with h | ⟨hsame, h⟩
  · refine clockText_lt ?_ ?_ ?_ ?_ ?_ _ _
    · simp only [secondOfDay]; omega
    · simp only [secondOfDay]; omega
    · split <;> omega
    · simp only [secondOfDay]; split <;> omega
    · split <;> omega
  · have hsecond : a.secondOfDay = b.secondOfDay := by rw [secondOfDay, secondOfDay, hsame]
    have hnanos := b.nanos_lt
    rw [secondOfMinute, secondOfMinute, hsecond]
    refine fixed_cons_lt ?_ (.inr ⟨rfl, fixed_cons_lt ?_ (.inr ⟨rfl, fixed_append_lt ?_ ?_⟩)⟩)
    · simp only [secondOfDay]; omega
    · omega
    · split <;> omega
    -- Within one second only the later time can be in its leap second alone.
    by_cases hin : 1000000000 ≤ a.nanos
    · rw [if_pos hin, if_pos (by omega)]
      exact .inr ⟨rfl, groups_lt (by omega) (by omega)⟩
    · by_cases hin' : 1000000000 ≤ b.nanos
      · rw [if_neg hin, if_pos hin']
        exact .inl (by omega)
      · rw [if_neg hin, if_neg hin']
        exact .inr ⟨rfl, groups_lt (by omega) (by omega)⟩

section Comparison
variable {a b : Instant} (hline : a.InLine b)
include hline

/-- **The order of the texts is that of the times.** -/
theorem stored_lt_iff : a.stored < b.stored ↔ ¬ b.le a = true := by
  rw [le_iff]
  constructor
  · rintro hlt (h | ⟨hseconds, h⟩)
    · exact List.lt_asymm hlt (stored_lt hline.symm (.inl h))
    · rcases Nat.lt_or_eq_of_le h with h | h
      · exact List.lt_asymm hlt (stored_lt hline.symm (.inr ⟨hseconds, h⟩))
      · rw [Instant.ext hseconds h] at hlt
        exact List.lt_irrefl _ hlt
  · exact fun h => stored_lt hline (by omega)

theorem stored_inj : a.stored = b.stored ↔ a = b := by
  refine ⟨fun h => ?_, congrArg stored⟩
  have hab : a.le b = true := Decidable.not_not.mp fun hab => by
    have hlt := (stored_lt_iff hline.symm).mpr hab
    rw [h] at hlt
    exact List.lt_irrefl _ hlt
  have hba : b.le a = true := Decidable.not_not.mp fun hba => by
    have hlt := (stored_lt_iff hline).mpr hba
    rw [h] at hlt
    exact List.lt_irrefl _ hlt
  exact le_antisymm hab hba

theorem storedLe_eq : Database.storedLe a b = a.le b := by
  rw [Database.storedLe, Bool.eq_iff_iff, Bool.not_eq_true', decide_eq_false_iff_not,
    stored_lt_iff hline.symm, Decidable.not_not]

end Comparison

/-- The year 10000 has a sign, and so its text is before that of 9999. -/
example :
    let last : Instant := ⟨253402300799, 0, by decide, by decide, by decide, by decide⟩
    let next : Instant := ⟨253402300800, 0, by decide, by decide, by decide, by decide⟩
    last.le next = true ∧ next.stored < last.stored ∧ ¬ last.InLine next := by
  decide

end Instant

/-- **Records are in the same order by text as by time.** -/
theorem Database.StoredKey.le_eq {a b : Recency} (hline : a.time.InLine b.time) :
    (StoredKey.of a.time a.id).le (.of b.time b.id) = a.le b := by
  simp only [StoredKey.of, StoredKey.le, Recency.le, Instant.stored_inj hline,
    Instant.stored_lt_iff hline]
  split
  · rfl
  · next hne =>
    have hiff : ¬ b.time.le a.time = true ↔ a.time.le b.time = true := by
      refine ⟨fun h => ?_, fun h h' => hne (Instant.le_antisymm h h')⟩
      have htotal := Instant.le_total a.time b.time
      rw [Bool.or_eq_true] at htotal
      exact htotal.resolve_right h
    rw [Bool.eq_iff_iff, decide_eq_true_eq, hiff]

end PickupLedger
