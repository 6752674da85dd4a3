import RawSeries.Calendar.Civil

namespace RawSeries.Calendar

/-- The days of an era before a year of it. Years start in March. -/
def daysBeforeYear (y : Nat) : Nat :=
  365 * y + y / 4 - y / 100

/-- The year of an era that a day of it lies in. -/
def yearOfDay (d : Nat) : Nat :=
  (d - d / 1460 + d / 36524 - d / 146096) / 365

theorem yearOfDay_mono {c d : Nat} (h : c ≤ d) : yearOfDay c ≤ yearOfDay d := by
  apply Nat.div_le_div_right
  omega

theorem yearOfDay_first : ∀ y < 400, yearOfDay (daysBeforeYear y) = y := by
  decide +kernel

theorem yearOfDay_last : ∀ y < 400, 0 < y → yearOfDay (daysBeforeYear y - 1) = y - 1 := by
  decide +kernel

theorem yearOfDay_lt {d : Nat} (hd : d < 146097) : yearOfDay d < 400 := by
  unfold yearOfDay
  omega

theorem daysBeforeYear_le {d : Nat} (hd : d < 146097) : daysBeforeYear (yearOfDay d) ≤ d := by
  refine Nat.le_of_not_lt fun hlt => ?_
  have hlast := yearOfDay_last (yearOfDay d) (yearOfDay_lt hd)
  have hmono := yearOfDay_mono (show d ≤ daysBeforeYear (yearOfDay d) - 1 by omega)
  have hzero : daysBeforeYear 0 = 0 := rfl
  by_cases hy : yearOfDay d = 0
  · rw [hy, hzero] at hlt
    omega
  · rw [hlast (by omega)] at hmono
    omega

theorem lt_daysBeforeYear {d : Nat} (hy : yearOfDay d < 399) :
    d < daysBeforeYear (yearOfDay d + 1) := by
  refine Nat.lt_of_not_le fun hle => ?_
  have hmono := yearOfDay_mono hle
  rw [yearOfDay_first _ (by omega)] at hmono
  omega

theorem leap_of_longer {y : Nat} (h : daysBeforeYear y + 365 < daysBeforeYear (y + 1)) :
    (y + 1) % 4 = 0 ∧ (y + 1) % 100 ≠ 0 := by
  unfold daysBeforeYear at h
  have hquarters : (y + 1) / 4 = if (y + 1) % 4 = 0 then y / 4 + 1 else y / 4 := by
    split <;> omega
  have hcenturies : (y + 1) / 100 = if (y + 1) % 100 = 0 then y / 100 + 1 else y / 100 := by
    split <;> omega
  rw [hquarters, hcenturies] at h
  split at h
  · refine ⟨‹_›, fun hhundred => ?_⟩
    rw [if_pos hhundred] at h
    omega
  · split at h <;> omega

/-- The days of an era, by year and day of the year. The last day is one of a leap year. -/
theorem era_parts {d : Nat} (hd : d < 146097) :
    ∃ y r, yearOfDay d = y ∧ y < 400 ∧ d = daysBeforeYear y + r ∧ r ≤ 365 ∧
      (r = 365 → isLeap (y + 1) = true) := by
  have hlt := yearOfDay_lt hd
  have hle := daysBeforeYear_le hd
  have hnext := lt_daysBeforeYear (d := d)
  generalize yearOfDay d = y at *
  refine ⟨y, d - daysBeforeYear y, rfl, hlt, by omega, ?_, ?_⟩
  · by_cases hy : y < 399
    · have := hnext hy
      unfold daysBeforeYear at *
      omega
    · obtain rfl : y = 399 := by omega
      unfold daysBeforeYear
      omega
  · intro hr
    by_cases hy : y < 399
    · have hlonger : daysBeforeYear y + 365 < daysBeforeYear (y + 1) := by
        have := hnext hy
        omega
      obtain ⟨hfour, hhundred⟩ := leap_of_longer hlonger
      simp [isLeap, hfour, hhundred]
    · obtain rfl : y = 399 := by omega
      rfl

theorem isLeap_add_era (y era : Nat) : isLeap (y + 400 * era) = isLeap y := by
  have h4 : (y + 400 * era) % 4 = y % 4 := by omega
  have h100 : (y + 400 * era) % 100 = y % 100 := by omega
  have h400 : (y + 400 * era) % 400 = y % 400 := by omega
  rw [isLeap, isLeap, h4, h100, h400]

theorem ofDayNumber_cases (n : Nat) :
    ∃ era y r m, n = 146097 * era + daysBeforeYear y + r ∧ y < 400 ∧ r ≤ 365 ∧
      (r = 365 → isLeap (y + 1) = true) ∧ m = (5 * r + 2) / 153 ∧
      (m < 10 ∧
        Date.ofDayNumber n = ⟨y + 400 * era, m + 3, r - daysBeforeMonth m + 1⟩ ∨
      (m = 10 ∨ m = 11) ∧
        Date.ofDayNumber n = ⟨y + 400 * era + 1, m - 9, r - daysBeforeMonth m + 1⟩) := by
  obtain ⟨y, r, hy, hlt, hd, hr, hleap⟩ := era_parts (Nat.mod_lt n (show 0 < 146097 by decide))
  refine ⟨n / 146097, y, r, (5 * r + 2) / 153, by omega, hlt, hr, hleap, rfl, ?_⟩
  have hrest : n % 146097 - (365 * y + y / 4 - y / 100) = r := by
    unfold daysBeforeYear at hd
    omega
  unfold yearOfDay at hy
  simp only [Date.ofDayNumber, hy, hrest]
  by_cases hm : (5 * r + 2) / 153 < 10
  · refine .inl ⟨hm, ?_⟩
    rw [if_pos hm, if_neg (by omega)]
  · refine .inr ⟨by omega, ?_⟩
    rw [if_neg hm, if_pos (by omega)]

theorem dayNumber_ofDayNumber (n : Nat) : (Date.ofDayNumber n).dayNumber = n := by
  obtain ⟨era, y, r, m, hn, hy, hr, -, hm, hdate⟩ := ofDayNumber_cases n
  have hday : daysBeforeMonth m + (r - daysBeforeMonth m + 1 - 1) = r := by
    unfold daysBeforeMonth
    omega
  unfold daysBeforeYear at hn
  rcases hdate with ⟨hbefore, hdate⟩ | ⟨hafter, hdate⟩
  · have hmonth : (m + 3 + 9) % 12 = m := by omega
    simp only [hdate, Date.dayNumber, hmonth, Nat.add_assoc _ (daysBeforeMonth m), hday]
    rw [if_neg (by omega)]
    omega
  · have hmonth : (m - 9 + 9) % 12 = m := by omega
    simp only [hdate, Date.dayNumber, hmonth, Nat.add_assoc _ (daysBeforeMonth m), hday]
    rw [if_pos (by omega), Nat.add_sub_cancel]
    omega

theorem daysBeforeMonth_succ (year : Nat) :
    ∀ m < 10, daysBeforeMonth (m + 1) = daysBeforeMonth m + monthLength year (m + 3) := by
  have hall : ∀ m < 10, daysBeforeMonth (m + 1) = daysBeforeMonth m + monthLength 0 (m + 3) := by
    decide
  intro m hm
  refine (hall m hm).trans ?_
  simp only [monthLength, if_neg (show ¬m + 3 = 2 by omega)]

theorem daysBeforeMonth_january (year : Nat) :
    daysBeforeMonth 11 = daysBeforeMonth 10 + monthLength year 1 := rfl

theorem isValid_ofDayNumber {n : Nat} (hfirst : 306 ≤ n) (hlast : n ≤ 3652364) :
    (Date.ofDayNumber n).isValid = true := by
  obtain ⟨era, y, r, m, hn, hy, hr, hleap, hm, hdate⟩ := ofDayNumber_cases n
  have hupto : daysBeforeMonth m ≤ r ∧ r < daysBeforeMonth (m + 1) := by
    unfold daysBeforeMonth
    omega
  unfold daysBeforeYear at hn
  rcases hdate with ⟨hbefore, hdate⟩ | ⟨hafter, hdate⟩
  · have hlength := daysBeforeMonth_succ (y + 400 * era) m hbefore
    have hyear : 1 ≤ y + 400 * era ∧ y + 400 * era ≤ 9999 := by omega
    simp only [hdate, Date.isValid, Bool.and_eq_true, decide_eq_true_eq]
    omega
  · have hyear : y + 400 * era + 1 ≤ 9999 := by omega
    simp only [hdate, Date.isValid, Bool.and_eq_true, decide_eq_true_eq]
    rcases hafter with rfl | rfl
    · have hlength : daysBeforeMonth (10 + 1) =
          daysBeforeMonth 10 + monthLength (y + 400 * era + 1) (10 - 9) := daysBeforeMonth_january _
      omega
    · have hlength : monthLength (y + 400 * era + 1) (11 - 9) =
          if isLeap (y + 1) then 29 else 28 := by
        rw [Nat.add_right_comm, monthLength, if_pos rfl, isLeap_add_era]
      have hbefore : daysBeforeMonth 11 = 337 := rfl
      -- The day of the year that would be 29 February is there in leap years only.
      have hday : r = 365 ∨ r - 337 + 1 ≤ 28 := by omega
      rw [hlength, hbefore]
      rcases hday with hday | hday
      · rw [hleap hday, if_pos rfl]
        omega
      · split <;> omega

/-- A day of the calendar and a time of the day. -/
structure Moment.IsProper (t : Moment) : Prop where
  date : t.date.isValid = true
  hour : t.hour < 24
  minute : t.minute < 60
  second : t.second < 60

theorem Moment.toSeconds_ofSeconds {s : Int} (h : firstSecond ≤ s) :
    (Moment.ofSeconds s).toSeconds = s := by
  unfold firstSecond at h
  unfold Moment.ofSeconds epochDay
  obtain ⟨n, hn⟩ := Int.eq_ofNat_of_zero_le (show 0 ≤ s + ((719468 : Nat) : Int) * 86400 by omega)
  rw [hn, Int.toNat_natCast]
  simp only [Moment.toSeconds, Moment.ofCount, dayNumber_ofDayNumber, epochDay]
  omega

theorem Moment.isProper_ofSeconds {s : Int} (hfirst : firstSecond ≤ s) (hlast : s ≤ lastSecond) :
    (Moment.ofSeconds s).IsProper := by
  unfold firstSecond at hfirst
  unfold lastSecond at hlast
  have hday : 306 ≤ (s + (epochDay : Int) * 86400).toNat / 86400 ∧
      (s + (epochDay : Int) * 86400).toNat / 86400 ≤ 3652364 := by
    unfold epochDay
    omega
  constructor
  · exact isValid_ofDayNumber hday.1 hday.2
  · simp only [Moment.ofSeconds, Moment.ofCount]
    omega
  · exact Nat.mod_lt _ (by decide)
  · exact Nat.mod_lt _ (by decide)

end RawSeries.Calendar
