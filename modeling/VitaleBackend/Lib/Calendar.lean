import Mathlib.Tactic.Common

/-!
# The proleptic Gregorian calendar

Days are counted from 1970-01-01. A year is taken to begin in March, so that the leap day is its
last, and a date is found by peeling off 400-year eras, centuries, 4-year cycles and years
(`civilFromDays`). `daysFromCivil` is the closed formula of the other direction, total in the day of
the month; `daysFromCivil_civilFromDays` is the round trip.
-/

namespace Calendar

/-- A date: the year, the month from 1 and the day of the month from 1. -/
structure Civil where
  year : Int
  month : Int
  day : Int
  deriving Repr, DecidableEq

/-- Days from 0000-03-01 to 1970-01-01. -/
def epochShift : Int := 719468

/-- Days of the years from March on that come before a year. -/
def daysBeforeYear (year : Int) : Int := 365 * year + year / 4 - year / 100 + year / 400

/-- Days of the months from March on that come before a month, counted from 0. -/
def daysBeforeMonth (month : Int) : Int := (153 * month + 2) / 5

/-- The day number of a date. -/
def daysFromCivil (d : Civil) : Int :=
  let year := if d.month ≤ 2 then d.year - 1 else d.year
  daysBeforeYear year + daysBeforeMonth ((d.month + 9) % 12) + (d.day - 1) - epochShift

/-- The year from March on in which a day lies, days counted from 0000-03-01. -/
def marchYear (z : Int) : Int :=
  let era := z / 146097
  let century := min 3 (z % 146097 / 36524)
  let rest := z % 146097 - 36524 * century
  400 * era + 100 * century + 4 * (rest / 1461) + min 3 (rest % 1461 / 365)

/-- The month from March on in which a day of the year lies, both counted from 0. -/
def marchMonth (dayOfYear : Int) : Int := (5 * dayOfYear + 2) / 153

/-- The date of a day, given by its year from March on, and its month and its day counted from 0. -/
def Civil.ofMarch (year month day : Int) : Civil :=
  if month < 10 then ⟨year, month + 3, day + 1⟩ else ⟨year + 1, month - 9, day + 1⟩

/-- The date of a day number. -/
def civilFromDays (days : Int) : Civil :=
  let z := days + epochShift
  let year := marchYear z
  let dayOfYear := z - daysBeforeYear year
  let month := marchMonth dayOfYear
  .ofMarch year month (dayOfYear - daysBeforeMonth month)

/-- The days before a year, by its era, century, 4-year cycle and year in the cycle. -/
theorem daysBeforeYear_of_cycles {era century cycle year : Int}
    (hcentury : 0 ≤ century ∧ century ≤ 3)
    (hcycle : 0 ≤ cycle ∧ cycle ≤ 24) (hyear : 0 ≤ year ∧ year ≤ 3) :
    daysBeforeYear (400 * era + 100 * century + 4 * cycle + year) =
      146097 * era + 36524 * century + 1461 * cycle + 365 * year := by
  have hquarter : (400 * era + 100 * century + 4 * cycle + year) / 4 =
      100 * era + 25 * century + cycle := by omega
  have hhundred : (400 * era + 100 * century + 4 * cycle + year) / 100 = 4 * era + century := by
    omega
  have hera : (400 * era + 100 * century + 4 * cycle + year) / 400 = era := by omega
  rw [daysBeforeYear, hquarter, hhundred, hera]
  omega

/-- A day lies at most 365 days after the first of its year. -/
theorem marchYear_spec (z : Int) :
    0 ≤ z - daysBeforeYear (marchYear z) ∧ z - daysBeforeYear (marchYear z) ≤ 365 := by
  simp only [marchYear]
  rw [daysBeforeYear_of_cycles (by omega) (by omega) (by omega)]
  omega

/-- A day comes before the next year. -/
theorem lt_daysBeforeYear_marchYear (z : Int) : z < daysBeforeYear (marchYear z + 1) := by
  simp only [marchYear]
  generalize hera : z / 146097 = era
  generalize hcentury : min 3 (z % 146097 / 36524) = century
  generalize hrest : z % 146097 - 36524 * century = rest
  generalize hcycle : rest / 1461 = cycle
  generalize hyear : min 3 (rest % 1461 / 365) = year
  -- the next year is in the same cycle, or the first of the next cycle, century or era
  by_cases h₁ : year < 3
  · have hnext := @daysBeforeYear_of_cycles era century cycle (year + 1) (by omega) (by omega)
      (by omega)
    rw [Int.add_assoc, hnext]
    omega
  by_cases h₂ : cycle < 24
  · have hnext := @daysBeforeYear_of_cycles era century (cycle + 1) 0 (by omega) (by omega)
      (by omega)
    rw [show 400 * era + 100 * century + 4 * cycle + year + 1 =
      400 * era + 100 * century + 4 * (cycle + 1) + 0 by omega, hnext]
    omega
  by_cases h₃ : century < 3
  · have hnext := @daysBeforeYear_of_cycles era (century + 1) 0 0 (by omega) (by omega) (by omega)
    rw [show 400 * era + 100 * century + 4 * cycle + year + 1 =
      400 * era + 100 * (century + 1) + 4 * 0 + 0 by omega, hnext]
    omega
  · have hnext := @daysBeforeYear_of_cycles (era + 1) 0 0 0 (by omega) (by omega) (by omega)
    rw [show 400 * era + 100 * century + 4 * cycle + year + 1 =
      400 * (era + 1) + 100 * 0 + 4 * 0 + 0 by omega, hnext]
    omega

/-- A later year begins on a later day. -/
theorem daysBeforeYear_mono {a b : Int} (h : a ≤ b) : daysBeforeYear a ≤ daysBeforeYear b := by
  unfold daysBeforeYear
  omega

/-- The year of a day is the one whose days it is among. -/
theorem marchYear_eq {z year : Int} (h0 : daysBeforeYear year ≤ z)
    (h1 : z < daysBeforeYear (year + 1)) : marchYear z = year := by
  have hle := (marchYear_spec z).1
  have hlt := lt_daysBeforeYear_marchYear z
  rcases Int.lt_trichotomy (marchYear z) year with h | h | h
  · have hmono := daysBeforeYear_mono (Int.add_one_le_of_lt h)
    omega
  · exact h
  · have hmono := daysBeforeYear_mono (Int.add_one_le_of_lt h)
    omega

/-- A year from March on is not negative when its days are not. -/
theorem marchYear_nonneg {z : Int} (h : 0 ≤ z) : 0 ≤ marchYear z := by
  simp only [marchYear]
  omega

/-- A day of the year lies at most 30 days after the first of its month. -/
theorem marchMonth_spec {dayOfYear : Int} (h0 : 0 ≤ dayOfYear) (h1 : dayOfYear ≤ 365) :
    0 ≤ marchMonth dayOfYear ∧ marchMonth dayOfYear ≤ 11 ∧
      0 ≤ dayOfYear - daysBeforeMonth (marchMonth dayOfYear) ∧
      dayOfYear - daysBeforeMonth (marchMonth dayOfYear) ≤ 30 := by
  unfold daysBeforeMonth marchMonth
  omega

/-- Months count from 1 to 12. -/
theorem civilFromDays_month (days : Int) :
    1 ≤ (civilFromDays days).month ∧ (civilFromDays days).month ≤ 12 := by
  obtain ⟨h0, h1⟩ := marchYear_spec (days + epochShift)
  obtain ⟨hm0, hm1, -, -⟩ := marchMonth_spec h0 h1
  simp only [civilFromDays, Civil.ofMarch]
  split <;> dsimp only <;> omega

/-- Days of the month count from 1 to at most 31. -/
theorem civilFromDays_day (days : Int) :
    1 ≤ (civilFromDays days).day ∧ (civilFromDays days).day ≤ 31 := by
  obtain ⟨h0, h1⟩ := marchYear_spec (days + epochShift)
  obtain ⟨-, -, hd0, hd1⟩ := marchMonth_spec h0 h1
  simp only [civilFromDays, Civil.ofMarch]
  split <;> dsimp only <;> omega

/-- The year of a day from 1970 on is not negative. -/
theorem civilFromDays_year {days : Int} (h : 0 ≤ days) : 0 ≤ (civilFromDays days).year := by
  have hyear : 0 ≤ marchYear (days + epochShift) :=
    marchYear_nonneg (Int.add_nonneg h (by decide))
  simp only [civilFromDays, Civil.ofMarch]
  split <;> dsimp only <;> omega

/-- The day number of a date that was found from March on. -/
theorem daysFromCivil_ofMarch {year month day : Int} (h0 : 0 ≤ month) (h1 : month ≤ 11) :
    daysFromCivil (.ofMarch year month day) =
      daysBeforeYear year + daysBeforeMonth month + day - epochShift := by
  unfold Civil.ofMarch
  split
  · have hmonth : (month + 3 + 9) % 12 = month := by omega
    simp only [daysFromCivil, hmonth]
    rw [if_neg (by omega)]
    omega
  · have hmonth : (month - 9 + 9) % 12 = month := by omega
    simp only [daysFromCivil, hmonth]
    rw [if_pos (by omega), Int.add_sub_cancel]
    omega

/-- The day number of the date of a day. -/
theorem daysFromCivil_civilFromDays (days : Int) : daysFromCivil (civilFromDays days) = days := by
  obtain ⟨h0, h1⟩ := marchYear_spec (days + epochShift)
  obtain ⟨hm0, hm1, -, -⟩ := marchMonth_spec h0 h1
  simp only [civilFromDays, daysFromCivil_ofMarch hm0 hm1]
  omega

/-! ## Dates that exist -/

/-- The length of a month. -/
def daysInMonth (year month : Int) : Int :=
  if month = 2 then if year % 4 = 0 ∧ (year % 100 ≠ 0 ∨ year % 400 = 0) then 29 else 28
  else if month = 4 ∨ month = 6 ∨ month = 9 ∨ month = 11 then 30
  else 31

/-- The month exists, and the day in it. -/
structure Civil.Valid (d : Civil) : Prop where
  month_pos : 1 ≤ d.month
  month_le : d.month ≤ 12
  day_pos : 1 ≤ d.day
  day_le : d.day ≤ daysInMonth d.year d.month

/-- A day of a month comes before the next month and before the next year. -/
theorem Civil.Valid.day_bounds {year month day : Int} (h : Valid (.ofMarch year month day))
    (h0 : 0 ≤ month) (h1 : month ≤ 11) : 0 ≤ day ∧
      daysBeforeMonth month + day < daysBeforeMonth (month + 1) ∧
      daysBeforeMonth month + day < daysBeforeYear (year + 1) - daysBeforeYear year := by
  obtain ⟨-, -, hpos, hle⟩ := h
  have hcases : month = 0 ∨ month = 1 ∨ month = 2 ∨ month = 3 ∨ month = 4 ∨ month = 5 ∨ month = 6 ∨
      month = 7 ∨ month = 8 ∨ month = 9 ∨ month = 10 ∨ month = 11 := by omega
  unfold ofMarch daysInMonth at *
  unfold daysBeforeMonth daysBeforeYear
  rcases hcases with rfl | rfl | rfl | rfl | rfl | rfl | rfl | rfl | rfl | rfl | rfl | rfl <;>
    dsimp at hpos hle
  -- only the length of February depends on the year
  case inr.inr.inr.inr.inr.inr.inr.inr.inr.inr.inr => split at hle <;> omega
  all_goals omega

/-- A date that exists is found from its day number. -/
theorem civilFromDays_daysFromCivil {d : Civil} (h : d.Valid) :
    civilFromDays (daysFromCivil d) = d := by
  obtain ⟨year, month, day, h0, h1, rfl⟩ : ∃ year month day, 0 ≤ month ∧ month ≤ 11 ∧
      d = .ofMarch year month day := by
    obtain ⟨year, month, day⟩ := d
    obtain ⟨hpos, hle, -, -⟩ := h
    dsimp only at hpos hle
    by_cases hmonth : month ≤ 2
    · refine ⟨year - 1, month + 9, day - 1, by omega, by omega, ?_⟩
      rw [Civil.ofMarch, if_neg (by omega)]
      simp
    · refine ⟨year, month - 3, day - 1, by omega, by omega, ?_⟩
      rw [Civil.ofMarch, if_pos (by omega)]
      simp
  obtain ⟨hday, hmonth, hyear⟩ := h.day_bounds h0 h1
  have hdays : daysFromCivil (.ofMarch year month day) + epochShift =
      daysBeforeYear year + (daysBeforeMonth month + day) := by
    rw [daysFromCivil_ofMarch h0 h1]
    omega
  have hbefore : 0 ≤ daysBeforeMonth month := by
    unfold daysBeforeMonth
    omega
  have hmarchYear : marchYear (daysBeforeYear year + (daysBeforeMonth month + day)) = year :=
    marchYear_eq (by omega) (by omega)
  have hmarchMonth : marchMonth (daysBeforeMonth month + day) = month := by
    unfold marchMonth daysBeforeMonth at *
    omega
  have hdoy : daysBeforeYear year + (daysBeforeMonth month + day) - daysBeforeYear year =
      daysBeforeMonth month + day := by omega
  have hmday : daysBeforeMonth month + day - daysBeforeMonth month = day := by omega
  simp only [civilFromDays, hdays, hmarchYear, hdoy, hmarchMonth, hmday]

/-- The date of a day exists. -/
theorem civilFromDays_valid (days : Int) : (civilFromDays days).Valid := by
  obtain ⟨h0, h1⟩ := marchYear_spec (days + epochShift)
  obtain ⟨hm0, hm1, hd0, hd1⟩ := marchMonth_spec h0 h1
  have hlt := lt_daysBeforeYear_marchYear (days + epochShift)
  obtain ⟨hmonth0, hmonth1⟩ := civilFromDays_month days
  refine ⟨hmonth0, hmonth1, (civilFromDays_day days).1, ?_⟩
  simp only [civilFromDays]
  generalize marchYear (days + epochShift) = year at *
  generalize hdoy : days + epochShift - daysBeforeYear year = doy at *
  have hnext : doy < daysBeforeYear (year + 1) - daysBeforeYear year := by omega
  unfold Civil.ofMarch daysBeforeMonth marchMonth daysBeforeYear daysInMonth at *
  split <;> dsimp only <;> split <;> (try split) <;> omega

example : civilFromDays 20688 = ⟨2026, 8, 23⟩ := by decide +kernel

end Calendar
