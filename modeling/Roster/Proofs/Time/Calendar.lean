import Roster.Time.Instant

/-!
# Days and dates

The calendar repeats after 400 years, an *era*.  A day is known by its era, its year in the era and
its day in the year, where years start in March and so end with the day that leap years add
(`EraDay`).  Every day number has these three (`civilOfDays_eq`), and its date can be told from
them.  So the number can be had back from the date (`daysOfCivil_civilOfDays`), and the date is one
of the calendar where the year is (`valid_civilOfDays`).
-/

namespace Roster

/-! ## Years of an era -/

/-- The day of an era on which one of its years starts. -/
def yearStart (y : Int) : Int := 365 * y + y / 4 - y / 100

/-- The year of a day of an era. -/
def yearOfEraDay (n : Int) : Int := (n - n / 1460 + n / 36524 - n / 146096) / 365

/-- An era has few years, and those that have a day 365 can be looked through. -/
theorem leap_of_yearStart : ∀ y < 400, yearOfEraDay (yearStart (y : Nat) + 365) = y →
    ((y : Int) + 1) % 4 = 0 ∧ (((y : Int) + 1) % 100 ≠ 0 ∨ ((y : Int) + 1) % 400 = 0) := by
  decide +kernel

section

variable {n : Int} (h0 : 0 ≤ n) (h1 : n < 146097)
include h0 h1

theorem yearOfEraDay_bounds : 0 ≤ yearOfEraDay n ∧ yearOfEraDay n ≤ 399 := by
  unfold yearOfEraDay
  omega

/-- The year of a day of an era has begun on that day, and has not ended. -/
theorem yearStart_yearOfEraDay :
    yearStart (yearOfEraDay n) ≤ n ∧ n ≤ yearStart (yearOfEraDay n) + 365 := by
  have hyear : yearOfEraDay n = (n - n / 1460 + n / 36524 - n / 146096) / 365 := rfl
  have hbounds := yearOfEraDay_bounds h0 h1
  unfold yearStart
  generalize yearOfEraDay n = y at *
  -- The centuries are few, and what is left in one of them is linear.
  have hcentury : y / 100 = 0 ∨ y / 100 = 1 ∨ y / 100 = 2 ∨ y / 100 = 3 := by omega
  rcases hcentury with hc | hc | hc | hc <;> rw [hc] <;> omega

/-- Only a year that ends with the February of a leap year has a day 365. -/
theorem leap_of_yearOfEraDay (h : n = yearStart (yearOfEraDay n) + 365) :
    (yearOfEraDay n + 1) % 4 = 0
      ∧ ((yearOfEraDay n + 1) % 100 ≠ 0 ∨ (yearOfEraDay n + 1) % 400 = 0) := by
  have hbounds := yearOfEraDay_bounds h0 h1
  have hyear : ((yearOfEraDay n).toNat : Int) = yearOfEraDay n := Int.toNat_of_nonneg hbounds.1
  have hleap := leap_of_yearStart (yearOfEraDay n).toNat (by omega)
  rw [hyear, ← h] at hleap
  exact hleap rfl

end

/-! ## Days -/

/-- A day by its era, the year in the era and the day in the year, from the first of March on. -/
structure EraDay where
  /-- The era. -/
  era : Int
  /-- The year in the era. -/
  year : Int
  /-- The day in the year. -/
  day : Int
  /-- Years count from 0. -/
  year_nonneg : 0 ≤ year
  /-- An era has 400 years. -/
  year_le : year ≤ 399
  /-- Days count from 0. -/
  day_nonneg : 0 ≤ day
  /-- No year has more than 366 days. -/
  day_le : day ≤ 365
  /-- Only before the end of a leap year's February there are so many. -/
  leap : day = 365 → isLeapYear (era * 400 + year + 1)

namespace EraDay

/-- The number of the day. -/
def number (e : EraDay) : Int := e.era * 146097 + yearStart e.year + e.day - 719468

/-- The month, where March is 0. -/
def month (e : EraDay) : Int := (5 * e.day + 2) / 153

/-- The date. -/
def date (e : EraDay) : Date :=
  let month := if e.month < 10 then e.month + 3 else e.month - 9
  ⟨e.year + e.era * 400 + (if month ≤ 2 then 1 else 0), month.toNat,
    (e.day - (153 * e.month + 2) / 5 + 1).toNat⟩

theorem month_cases (e : EraDay) :
    e.month = 0 ∨ e.month = 1 ∨ e.month = 2 ∨ e.month = 3 ∨ e.month = 4 ∨ e.month = 5
      ∨ e.month = 6 ∨ e.month = 7 ∨ e.month = 8 ∨ e.month = 9 ∨ e.month = 10 ∨ e.month = 11 := by
  have h0 := e.day_nonneg
  have h1 := e.day_le
  unfold month
  omega

/-- The date tells the number. -/
theorem daysOfCivil_date (e : EraDay) : daysOfCivil e.date = e.number := by
  have h0 := e.day_nonneg
  have h2 := e.year_nonneg
  have h3 := e.year_le
  have hm := e.month_cases
  have hday : e.month = (5 * e.day + 2) / 153 := rfl
  unfold daysOfCivil date number yearStart
  simp only [Int.fdiv_eq_ediv_of_nonneg _ (show (0 : Int) ≤ 400 by decide)]
  generalize e.month = m at *
  rcases hm with rfl | rfl | rfl | rfl | rfl | rfl | rfl | rfl | rfl | rfl | rfl | rfl <;>
    simp <;> omega

/-- The date is one of the calendar if its year is. -/
theorem valid_date (e : EraDay) (h0 : firstYear ≤ e.date.year) (h1 : e.date.year ≤ lastYear) :
    e.date.valid := by
  have hd0 := e.day_nonneg
  have hd1 := e.day_le
  have hleap := e.leap
  have hm := e.month_cases
  have hday : e.month = (5 * e.day + 2) / 153 := rfl
  have hparts : (1 ≤ e.date.month ∧ e.date.month ≤ 12) ∧ 1 ≤ e.date.day
      ∧ e.date.day ≤ daysInMonth e.date.year e.date.month := by
    unfold date
    generalize e.month = m at *
    rcases hm with rfl | rfl | rfl | rfl | rfl | rfl | rfl | rfl | rfl | rfl | rfl | rfl
    case inr.inr.inr.inr.inr.inr.inr.inr.inr.inr.inr =>
      -- In February there is a day 365 only in leap years.
      have hyear : e.year + e.era * 400 + 1 = e.era * 400 + e.year + 1 := by omega
      by_cases h365 : e.day = 365
      · simp [daysInMonth, hyear, hleap h365]
        omega
      · simp [daysInMonth]
        split <;> omega
    all_goals
      simp [daysInMonth]
      omega
  obtain ⟨⟨hm0, hm1⟩, hday0, hday1⟩ := hparts
  simp [Date.valid, h0, h1, hm0, hm1, hday0, hday1]

end EraDay

/-- Every number is that of a day, and its date is the date of that day. -/
theorem civilOfDays_eq (n : Int) : ∃ e : EraDay, e.number = n ∧ civilOfDays n = e.date := by
  have hera : (n + 719468).fdiv 146097 = (n + 719468) / 146097 :=
    Int.fdiv_eq_ediv_of_nonneg _ (by decide)
  have h0 : 0 ≤ n + 719468 - (n + 719468) / 146097 * 146097 := by omega
  have h1 : n + 719468 - (n + 719468) / 146097 * 146097 < 146097 := by omega
  obtain ⟨hy0, hy1⟩ := yearOfEraDay_bounds h0 h1
  obtain ⟨hd0, hd1⟩ := yearStart_yearOfEraDay h0 h1
  refine ⟨⟨(n + 719468) / 146097, _, _, hy0, hy1, Int.sub_nonneg.2 hd0,
    Int.sub_left_le_of_le_add hd1, fun h => ?_⟩, ?_, ?_⟩
  · obtain ⟨h4, h100⟩ := leap_of_yearOfEraDay h0 h1 (by omega)
    generalize yearOfEraDay _ = y at h4 h100 ⊢
    simp only [isLeapYear, Bool.and_eq_true, Bool.or_eq_true, beq_iff_eq, bne_iff_ne]
    omega
  · simp only [EraDay.number]
    omega
  · simp only [civilOfDays, hera]
    rfl

/-- The date of a number tells it. -/
theorem daysOfCivil_civilOfDays (n : Int) : daysOfCivil (civilOfDays n) = n := by
  obtain ⟨e, hnumber, hdate⟩ := civilOfDays_eq n
  rw [hdate, e.daysOfCivil_date, hnumber]

/-- The days of the calendar's years have dates of the calendar. -/
theorem valid_civilOfDays {n : Int} (h0 : firstSecond ≤ n * 86400) (h1 : n * 86400 ≤ lastSecond) :
    (civilOfDays n).valid := by
  obtain ⟨e, hnumber, hdate⟩ := civilOfDays_eq n
  have hy0 := e.year_nonneg
  have hy1 := e.year_le
  have hd0 := e.day_nonneg
  have hd1 := e.day_le
  have hm := e.month_cases
  have hday : e.month = (5 * e.day + 2) / 153 := rfl
  have hera : e.era ≤ 654 ∨ e.era = 655 ∨ 656 ≤ e.era := by omega
  rw [hdate]
  unfold firstSecond at h0
  unfold lastSecond at h1
  simp only [EraDay.number, yearStart] at hnumber
  apply e.valid_date <;> simp only [EraDay.date, firstYear, lastYear] <;> split <;> split <;> omega

end Roster
