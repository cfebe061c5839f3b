import RemoteDesk.Timestamp

/-! # The calendar

Every day has a date, the date is one that the calendar has, and counting the days up to it gives the
day back. Years are counted from March within an era of four hundred years, where the day on which
each year begins is known: the year of a day is found from it without division by the length of a
year, which varies.
-/

namespace RemoteDesk.Timestamp

/-! ## Years of an era -/

/-- The day of the era on which a year begins. -/
def firstDay (year : Nat) : Nat :=
  365 * year + year / 4 - year / 100 + year / 400

/-- The year of a day of the era. -/
def yearOfEra (day : Nat) : Nat :=
  (day - day / 1460 + day / 36524 - day / 146096) / 365

theorem yearOfEra_mono {a b : Nat} (h : a ≤ b) (within : b < 146097) :
    yearOfEra a ≤ yearOfEra b := by
  induction b with
  | zero =>
      obtain rfl := Nat.le_zero.mp h
      exact Nat.le_refl _
  | succ b ih =>
      rcases Nat.le_succ_iff.mp h with earlier | rfl
      · have step : yearOfEra b ≤ yearOfEra (b + 1) := by
          apply Nat.div_le_div_right
          omega
        exact Nat.le_trans (ih earlier (by omega)) step
      · exact Nat.le_refl _

theorem yearOfEra_firstDay : ∀ year < 400,
    yearOfEra (firstDay year) = year ∧ yearOfEra (firstDay (year + 1) - 1) = year := by
  decide +kernel

theorem firstDay_le {year : Nat} (h : year ≤ 400) : firstDay year ≤ 146097 := by
  unfold firstDay
  omega

/-- A day lies between the first day of its year and that of the next. -/
theorem firstDay_yearOfEra {day : Nat} (within : day < 146097) :
    yearOfEra day < 400 ∧ firstDay (yearOfEra day) ≤ day ∧
      day < firstDay (yearOfEra day + 1) := by
  have small : yearOfEra day < 400 := by
    have last := yearOfEra_mono (Nat.le_pred_of_lt within) (by decide)
    have value : yearOfEra 146096 = 399 := by decide +kernel
    simp only [Nat.pred_eq_sub_one, Nat.reduceSub] at last
    omega
  refine ⟨small, ?_, ?_⟩
  · apply Nat.le_of_not_lt
    intro before
    cases year : yearOfEra day with
    | zero => simp [year, firstDay] at before
    | succ earlier =>
        -- the day would lie in an earlier year
        rw [year] at before small
        have end' := (yearOfEra_firstDay earlier (by omega)).2
        have bound := firstDay_le (Nat.le_of_lt small)
        have order := yearOfEra_mono (Nat.le_pred_of_lt before)
          (by simp only [Nat.pred_eq_sub_one]; omega)
        simp only [Nat.pred_eq_sub_one] at order
        omega
  · apply Nat.lt_of_not_le
    intro behind
    have next : yearOfEra day + 1 ≤ 400 := small
    have order := yearOfEra_mono behind within
    rcases Nat.lt_or_eq_of_le next with inside | last
    · have begins := (yearOfEra_firstDay _ inside).1
      omega
    · have value : firstDay 400 = 146097 := by decide
      rw [last, value] at behind
      omega

theorem isLeapYear_era (era : Int) (year : Nat) :
    isLeapYear (era * 400 + year) = isLeapYear year := by
  unfold isLeapYear
  have four : (era * 400 + year) % 4 = (year : Int) % 4 := by omega
  have hundred : (era * 400 + year) % 100 = (year : Int) % 100 := by omega
  have all : (era * 400 + year) % 400 = (year : Int) % 400 := by omega
  rw [four, hundred, all]

/-- A year is followed by a leap day if the February in it is one of a leap year. -/
theorem isLeapYear_of_long : ∀ year < 400, firstDay year + 365 < firstDay (year + 1) →
    isLeapYear (year + 1 : Nat) := by
  decide +kernel

theorem year_length (year : Nat) : firstDay (year + 1) ≤ firstDay year + 366 := by
  unfold firstDay
  omega

/-! ## Months -/

/-- The month, counted from March, of a day of the year. -/
def monthOfYear (day : Nat) : Nat :=
  (5 * day + 2) / 153

/-- The number of a month that is counted from March. -/
def monthName (fromMarch : Nat) : Nat :=
  if fromMarch < 10 then fromMarch + 3 else fromMarch - 9

theorem monthOfYear_bounds {day : Nat} (h : day < 366) :
    monthOfYear day ≤ 11 ∧ daysBeforeMonth (monthOfYear day) ≤ day := by
  unfold monthOfYear daysBeforeMonth
  omega

/-- The days of a year are those of its months, of which the last has a day more in leap years. -/
theorem day_le_daysInMonth {day : Nat} (h : day < 366) {year : Int}
    (leap : day = 365 → isLeapYear year) :
    day - daysBeforeMonth (monthOfYear day) + 1 ≤
      daysInMonth year (monthName (monthOfYear day)) := by
  have months : ∀ day < 366, ∀ leap : Bool, (day = 365 → leap = true) →
      day - daysBeforeMonth (monthOfYear day) + 1 ≤
        if monthName (monthOfYear day) = 2 then (if leap then 29 else 28)
        else if monthName (monthOfYear day) = 4 ∨ monthName (monthOfYear day) = 6 ∨
          monthName (monthOfYear day) = 9 ∨ monthName (monthOfYear day) = 11 then 30
        else 31 := by
    decide +kernel
  exact months day h (isLeapYear year) leap

/-! ## Dates -/

/-- The era of a day, and the day of the year in it. -/
theorem dateOfDay_eq (day : Int) :
    ∃ (era : Int) (year dayOfYear : Nat), year < 400 ∧ dayOfYear < 366 ∧
      (dayOfYear = 365 → isLeapYear (year + 1 : Nat)) ∧
      day + 719468 = era * 146097 + firstDay year + dayOfYear ∧
      dateOfDay day =
        { year := era * 400 + year + (if monthName (monthOfYear dayOfYear) ≤ 2 then 1 else 0)
          month := monthName (monthOfYear dayOfYear)
          day := dayOfYear - daysBeforeMonth (monthOfYear dayOfYear) + 1 } := by
  generalize place : day + 719468 = z
  have within : (z % 146097).toNat < 146097 := by omega
  obtain ⟨small, begins, ends⟩ := firstDay_yearOfEra within
  have length := year_length (yearOfEra (z % 146097).toNat)
  have long := isLeapYear_of_long _ small
  refine ⟨z / 146097, yearOfEra (z % 146097).toNat,
    (z % 146097).toNat - firstDay (yearOfEra (z % 146097).toNat), small, by omega, ?_, by omega, ?_⟩
  · intro last
    exact long (by omega)
  · have start : firstDay (yearOfEra (z % 146097).toNat) =
        365 * yearOfEra (z % 146097).toNat + yearOfEra (z % 146097).toNat / 4 -
          yearOfEra (z % 146097).toNat / 100 := by
      unfold firstDay
      omega
    rw [start]
    unfold dateOfDay
    rw [place]
    rfl

/-- Counting the days up to the date of a day gives the day. -/
theorem dayOfDate_dateOfDay (day : Int) :
    dayOfDate (dateOfDay day).year (dateOfDay day).month (dateOfDay day).day = day := by
  obtain ⟨era, year, dayOfYear, small, short, -, place, date⟩ := dateOfDay_eq day
  obtain ⟨last, within⟩ := monthOfYear_bounds short
  rw [date]
  unfold firstDay at place
  simp only [dayOfDate]
  generalize monthOfYear dayOfYear = m at last within
  have march : (if monthName m ≤ 2 then era * 400 + year + (if monthName m ≤ 2 then 1 else 0) - 1
      else era * 400 + year + (if monthName m ≤ 2 then 1 else 0)) = era * 400 + year := by
    split <;> simp
  have count : (if monthName m ≤ 2 then monthName m + 9 else monthName m - 3) = m := by
    unfold monthName
    split <;> split <;> omega
  rw [march, count]
  omega

/-- The date of a day is one that the calendar has. -/
theorem dateOfDay_proper (day : Int) :
    1 ≤ (dateOfDay day).month ∧ (dateOfDay day).month ≤ 12 ∧ 1 ≤ (dateOfDay day).day ∧
      (dateOfDay day).day ≤ daysInMonth (dateOfDay day).year (dateOfDay day).month := by
  obtain ⟨era, year, dayOfYear, small, short, leap, -, date⟩ := dateOfDay_eq day
  obtain ⟨last, -⟩ := monthOfYear_bounds short
  rw [date]
  have month : 1 ≤ monthName (monthOfYear dayOfYear) ∧ monthName (monthOfYear dayOfYear) ≤ 12 := by
    unfold monthName
    split <;> omega
  refine ⟨month.1, month.2, Nat.le_add_left 1 _, day_le_daysInMonth short ?_⟩
  intro leapDay
  have february : monthName (monthOfYear 365) = 2 := by decide
  rw [leapDay, february, if_pos (by decide), Int.add_assoc]
  exact (isLeapYear_era era (year + 1)).trans (leap leapDay)

end RemoteDesk.Timestamp
