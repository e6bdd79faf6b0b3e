import PickupLedger.Time.Civil

/-!
# Days and dates

Later days have later dates (`Civil.before_ofDayNumber`).  The calendar counts years from
the first of March; a day is the year from March that it lies in and its place there, and
both grow with the days as a number does with its digits.  That the years of an era start
where they are looked for is checked year by year (`yearOfEra_yearStart`), since the
quotient that finds the year is not the start turned around.

The date of a day exists (`Civil.valid_ofDayNumber`) and leads back to it
(`Civil.dayNumber_ofDayNumber`).
-/

namespace PickupLedger.Civil

/-- **The earlier date**: by year, then by month, then by day. -/
def Before (a b : Civil) : Prop :=
  a.year < b.year ∨ a.year = b.year ∧
    (a.month < b.month ∨ a.month = b.month ∧ a.day < b.day)

/-! ## Years of an era -/

/-- The year of a day in its era. -/
def yearOfEra (d : Int) : Int := (d - d / 1460 + d / 36524 - d / 146096) / 365

/-- The first day of a year in its era. -/
def yearStart (y : Int) : Int := 365 * y + y / 4 - y / 100

theorem yearOfEra_mono {d e : Int} (h : d ≤ e) : yearOfEra d ≤ yearOfEra e :=
  Int.ediv_le_ediv (by decide) (by omega)

theorem yearStart_bounds {y : Int} (hy : 0 ≤ y) (hlast : y ≤ 399) :
    0 ≤ yearStart y ∧ yearStart y ≤ 145731 ∧ yearStart (y + 1) ≤ yearStart y + 366 := by
  simp only [yearStart]
  omega

/-- A year begins on its first day, and the day before is in the year before. -/
theorem yearOfEra_yearStart {y : Int} (hy : 0 ≤ y) (hlast : y ≤ 399) :
    yearOfEra (yearStart y) = y ∧ (0 < y → yearOfEra (yearStart y - 1) = y - 1) := by
  have hall : ∀ n < 400, yearOfEra (yearStart (n : Nat)) = (n : Nat) ∧
      (0 < ((n : Nat) : Int) → yearOfEra (yearStart (n : Nat) - 1) = (n : Nat) - 1) := by
    decide +kernel
  obtain ⟨n, rfl⟩ := Int.eq_ofNat_of_zero_le hy
  exact hall n (by omega)

section Era
variable {d : Int} (hd : 0 ≤ d) (hlast : d ≤ 146096)
include hd hlast

theorem yearOfEra_bounds : 0 ≤ yearOfEra d ∧ yearOfEra d ≤ 399 :=
  ⟨yearOfEra_mono hd, yearOfEra_mono hlast⟩

/-- A day is in its year: not before its start, and at most 366 days from there. -/
theorem dayOfEra_bounds :
    yearStart (yearOfEra d) ≤ d ∧ d < yearStart (yearOfEra d) + 366 := by
  obtain ⟨hnonneg, hle⟩ := yearOfEra_bounds hd hlast
  generalize hy : yearOfEra d = y at hnonneg hle ⊢
  obtain ⟨hstart, hbound, hstep⟩ := yearStart_bounds hnonneg hle
  obtain ⟨-, hbefore⟩ := yearOfEra_yearStart hnonneg hle
  -- A day before the start would be in the year before, one after the end in the next.
  refine ⟨Int.not_lt.mp fun hlt => ?_, ?_⟩
  · have hpos : 0 < y := by
      rcases Int.lt_or_eq_of_le hnonneg with h | h
      · exact h
      · rw [← h] at hlt
        exact absurd hlt (Int.not_lt.mpr hd)
    have hmono := yearOfEra_mono (e := yearStart y - 1) (by omega : d ≤ _)
    rw [hbefore hpos, hy] at hmono
    omega
  · rcases Int.lt_or_eq_of_le hle with h | h
    · have hnext := (yearOfEra_yearStart (y := y + 1) (by omega) (by omega)).1
      refine Int.lt_of_lt_of_le (Int.not_le.mp fun hle => ?_) hstep
      have hmono := yearOfEra_mono hle
      rw [hnext, hy] at hmono
      omega
    -- There is no next year in the era; its last day is near enough.
    · rw [h]
      exact Int.lt_of_le_of_lt hlast (by decide)

/-- The 366th day of a year from March is the last of a February with 29 days. -/
theorem dayOfEra_lt :
    d < yearStart (yearOfEra d) + 365 + (if isLeap (yearOfEra d + 1) then 1 else 0) := by
  obtain ⟨hnonneg, hle⟩ := yearOfEra_bounds hd hlast
  have hall : ∀ n < 399, yearStart ((n : Nat) + 1) =
      yearStart (n : Nat) + 365 + (if isLeap ((n : Nat) + 1) then 1 else 0) := by
    decide +kernel
  rcases Int.lt_or_eq_of_le hle with hlt | heq
  · -- The next year of the era has not begun.
    obtain ⟨n, hn⟩ := Int.eq_ofNat_of_zero_le hnonneg
    have hnext := (yearOfEra_yearStart (y := yearOfEra d + 1) (by omega) (by omega)).1
    have hbefore : d < yearStart (yearOfEra d + 1) := Int.not_le.mp fun hge => by
      have hmono := yearOfEra_mono hge
      omega
    rw [hn] at hbefore ⊢
    rw [← hall n (by omega)]
    exact hbefore
  · have hleap : isLeap (399 + 1) = true := by decide
    have hstart : yearStart 399 = 145731 := by decide
    rw [heq, hleap, hstart]
    simp only [if_true]
    omega

end Era

/-! ## Days as dates -/

/-- The date of a day in a year from March. -/
def ofMarch (year inYear : Int) : Civil :=
  let fromMarch := (5 * inYear + 2) / 153
  let day := inYear - (153 * fromMarch + 2) / 5 + 1
  let month := if fromMarch < 10 then fromMarch + 3 else fromMarch - 9
  { year := year + (if month ≤ 2 then 1 else 0)
    month := month.toNat
    day := day.toNat }

/-- The year from March of a day number. -/
def marchYear (n : Int) : Int :=
  (n + 719468) / 146097 * 400 + yearOfEra ((n + 719468) % 146097)

/-- The day of a day number in its year from March. -/
def dayOfYear (n : Int) : Int :=
  (n + 719468) % 146097 - yearStart (yearOfEra ((n + 719468) % 146097))

theorem ofDayNumber_eq (n : Int) : ofDayNumber n = ofMarch (marchYear n) (dayOfYear n) := rfl

theorem dayOfYear_bounds (n : Int) : 0 ≤ dayOfYear n ∧ dayOfYear n < 366 := by
  have h := dayOfEra_bounds (d := (n + 719468) % 146097) (by omega) (by omega)
  simp only [dayOfYear]
  omega

/-- Later days are in a later year, or later in the same. -/
theorem marchYear_lt_or {n m : Int} (h : n < m) :
    marchYear n < marchYear m ∨ (marchYear n = marchYear m ∧ dayOfYear n < dayOfYear m) := by
  have hn := yearOfEra_bounds (d := (n + 719468) % 146097) (by omega) (by omega)
  have hm := yearOfEra_bounds (d := (m + 719468) % 146097) (by omega) (by omega)
  have hera : (n + 719468) / 146097 ≤ (m + 719468) / 146097 :=
    Int.ediv_le_ediv (by decide) (by omega)
  simp only [marchYear, dayOfYear]
  rcases Int.lt_or_eq_of_le hera with hera | hera
  · omega
  · have hday : (n + 719468) % 146097 < (m + 719468) % 146097 := by omega
    have hmono := yearOfEra_mono (Int.le_of_lt hday)
    rcases Int.lt_or_eq_of_le hmono with hyear | hyear
    · omega
    · refine .inr ⟨by omega, ?_⟩
      rw [hyear]
      omega

theorem ofMarch_before_same {year d e : Int} (hd : 0 ≤ d) (h : d < e) (he : e < 366) :
    (ofMarch year d).Before (ofMarch year e) := by
  simp only [ofMarch, Before]
  omega

theorem ofMarch_before {year year' d e : Int} (h : year < year') (hd : 0 ≤ d) (hdlast : d < 366)
    (he : 0 ≤ e) (helast : e < 366) : (ofMarch year d).Before (ofMarch year' e) := by
  simp only [ofMarch, Before]
  omega

/-- **A later day has a later date.** -/
theorem before_ofDayNumber {n m : Int} (h : n < m) :
    (ofDayNumber n).Before (ofDayNumber m) := by
  have hn := dayOfYear_bounds n
  have hm := dayOfYear_bounds m
  rw [ofDayNumber_eq, ofDayNumber_eq]
  rcases marchYear_lt_or h with hyear | ⟨hyear, hday⟩
  · exact ofMarch_before hyear hn.1 hn.2 hm.1 hm.2
  · rw [hyear]
    exact ofMarch_before_same hn.1 hday hm.2

/-- Months and days have two digits. -/
theorem ofDayNumber_lt (n : Int) : (ofDayNumber n).month < 100 ∧ (ofDayNumber n).day < 100 := by
  have h := dayOfYear_bounds n
  rw [ofDayNumber_eq]
  simp only [ofMarch]
  omega

/-! ## Dates as days -/

theorem marchYear_era (n : Int) : marchYear n / 400 = (n + 719468) / 146097 ∧
    marchYear n % 400 = yearOfEra ((n + 719468) % 146097) := by
  have h := yearOfEra_bounds (d := (n + 719468) % 146097) (by omega) (by omega)
  simp only [marchYear]
  omega

theorem isLeap_mod (y : Int) : isLeap (y % 400 + 1) = isLeap (y + 1) := by
  have h₁ : (y % 400 + 1) % 4 = (y + 1) % 4 := by omega
  have h₂ : (y % 400 + 1) % 100 = (y + 1) % 100 := by omega
  have h₃ : (y % 400 + 1) % 400 = (y + 1) % 400 := by omega
  rw [isLeap, isLeap, h₁, h₂, h₃]

theorem dayOfYear_lt (n : Int) :
    dayOfYear n < 365 + (if isLeap (marchYear n + 1) then 1 else 0) := by
  have h := dayOfEra_lt (d := (n + 719468) % 146097) (by omega) (by omega)
  rw [← isLeap_mod, (marchYear_era n).2]
  simp only [dayOfYear]
  omega

/-- The date of a day by its month from March: the days before the month, and the day in
it, which is no later than the next one begins. -/
theorem ofMarch_eq (year : Int) {d : Int} (hd : 0 ≤ d) (hlast : d < 366) : ∃ m day : Nat,
    d = (153 * (m : Int) + 2) / 5 + day - 1 ∧ 1 ≤ day ∧
      (153 * (m : Int) + 2) / 5 + day ≤ (153 * (m + 1 : Int) + 2) / 5 ∧
      ((m < 10 ∧ ofMarch year d = ⟨year, m + 3, day⟩) ∨
        (10 ≤ m ∧ m < 12 ∧ ofMarch year d = ⟨year + 1, m - 9, day⟩)) := by
  have hmonth : 0 ≤ (5 * d + 2) / 153 := by omega
  obtain ⟨m, hm⟩ := Int.eq_ofNat_of_zero_le hmonth
  refine ⟨m, (d - (153 * m + 2) / 5 + 1).toNat, by omega, by omega, by omega, ?_⟩
  simp only [ofMarch, hm, mk.injEq, and_true]
  by_cases hlate : m < 10
  · exact .inl ⟨hlate, by omega, by omega⟩
  · exact .inr ⟨by omega, by omega, by omega, by omega⟩

/-- **A day number is read back from its date.** -/
theorem dayNumber_ofDayNumber (n : Int) : (ofDayNumber n).dayNumber = n := by
  have hday := dayOfYear_bounds n
  have hera := marchYear_era n
  have hsplit : n + 719468 = marchYear n / 400 * 146097 +
      (yearStart (marchYear n % 400) + dayOfYear n) := by
    rw [hera.1, hera.2, dayOfYear]
    omega
  obtain ⟨m, day, hd, -, -, hdate⟩ := ofMarch_eq (marchYear n) hday.1 hday.2
  rw [hd] at hsplit
  rw [ofDayNumber_eq]
  generalize marchYear n = y at hsplit hdate
  simp only [yearStart] at hsplit
  -- The year from March is that of the date, or the one before it.
  rcases hdate with ⟨hm, hdate⟩ | ⟨hm, hlast, hdate⟩
  · have hfrom : (m + 3 + 9) % 12 = m := by omega
    have hmarch : ¬ m + 3 ≤ 2 := by omega
    rw [hdate]
    simp only [dayNumber, hfrom, if_neg hmarch]
    omega
  · have hfrom : (m - 9 + 9) % 12 = m := by omega
    have hmarch : m - 9 ≤ 2 := by omega
    rw [hdate]
    simp only [dayNumber, hfrom, if_pos hmarch, Int.add_sub_cancel]
    omega

/-- **The date of a day exists.** -/
theorem valid_ofDayNumber (n : Int) : (ofDayNumber n).Valid := by
  have hday := dayOfYear_bounds n
  have hleap := dayOfYear_lt n
  obtain ⟨m, day, hd, hfirst, hend, hdate⟩ := ofMarch_eq (marchYear n) hday.1 hday.2
  rw [ofDayNumber_eq]
  generalize marchYear n = y at hleap hdate
  rcases hdate with ⟨hm, hdate⟩ | ⟨hm, hlast, hdate⟩
  · have hfebruary : ¬ m + 3 = 2 := by omega
    rw [hdate]
    refine ⟨⟨by simp, by simp only; omega⟩, hfirst, ?_⟩
    simp only [daysIn, if_neg hfebruary]
    split
    · omega
    · omega
  · rw [hdate]
    refine ⟨⟨by simp only; omega, by simp only; omega⟩, hfirst, ?_⟩
    -- The years from March end with January and February.
    have hmonth : m = 10 ∨ m = 11 := by omega
    rcases hmonth with rfl | rfl
    · show day ≤ 31
      omega
    · simp only [daysIn, Nat.reduceSub, if_true]
      split
      · next h => rw [if_pos h] at hleap; omega
      · next h => rw [if_neg h] at hleap; omega

end PickupLedger.Civil
