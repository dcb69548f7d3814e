import Mathlib.Algebra.Order.Ring.Int
import Mathlib.Order.Monotone.Basic
import Mathlib.Tactic.IntervalCases
import WorkQueue.Timestamp.Calendar

/-!
# The calendar inverts

The date of a day number exists and has that day number. The proof follows the era of 400 years: a
day of the era lies in a century, a cycle of four years and a year of that cycle, and the divisions
in `dateOf` recover these parts.

## Main definitions

* `Calendar.Placed`: the parts of a day of an era
* `Calendar.dateIn`: the date of a day of a year that starts in March

## Main statements

* `Calendar.dayOf_dateOf`, `Calendar.exists_dateOf`: dates of days
* `Calendar.year_dateOf_bounds`: the years of the days that instants have
-/

namespace WorkQueue.Calendar

/-- A day of an era, placed by century, cycle of four years, year of the cycle and day of the year.
Years end with February, so that only the last year of a cycle may have a leap day, and does not
when it is the last one of a century other than the fourth. -/
structure Placed (day century cycle year dayOfYear : Int) : Prop where
  century_bounds : 0 ≤ century ∧ century ≤ 3
  cycle_bounds : 0 ≤ cycle ∧ cycle ≤ 24
  year_bounds : 0 ≤ year ∧ year ≤ 3
  dayOfYear_bounds : 0 ≤ dayOfYear ∧ dayOfYear ≤ 365
  leap : dayOfYear = 365 → year = 3 ∧ (cycle < 24 ∨ century = 3)
  day_eq : day = 36524 * century + 1461 * cycle + 365 * year + dayOfYear

theorem exists_placed {day : Int} (h₀ : 0 ≤ day) (h₁ : day < 146097) :
    ∃ century cycle year dayOfYear, Placed day century cycle year dayOfYear := by
  obtain ⟨century, hcentury⟩ : ∃ c, c = min 3 (day / 36524) := ⟨_, rfl⟩
  obtain ⟨inCentury, hc⟩ : ∃ d, d = day - 36524 * century := ⟨_, rfl⟩
  obtain ⟨inCycle, hq⟩ : ∃ d, d = inCentury % 1461 := ⟨_, rfl⟩
  obtain ⟨year, hyear⟩ : ∃ r, r = min 3 (inCycle / 365) := ⟨_, rfl⟩
  refine ⟨century, inCentury / 1461, year, inCycle - 365 * year, ?_, ?_, ?_, ?_, ?_, ?_⟩ <;> omega

namespace Placed

variable {day century cycle year dayOfYear : Int}

/-- The corrections in the formula cancel the leap days before the year. -/
theorem yearOfEra_eq (h : Placed day century cycle year dayOfYear) :
    (day - day / 1460 + day / 36524 - day / 146096) / 365 = 100 * century + 4 * cycle + year := by
  obtain ⟨hc, hq, hr, ht, hleap, hday⟩ := h
  have hcycles : day / 1460 = 25 * century + cycle ∨
      day / 1460 = 25 * century + cycle + 1 ∧ year = 3 ∧ 2 ≤ dayOfYear := by
    omega
  have hcentury : day < 36524 * (century + 1) ∨ day = 146096 ∧ century = 3 := by
    omega
  have hlast : day / 36524 - day / 146096 = century := by
    rcases hcentury with hlt | ⟨rfl, rfl⟩
    · have h₁ : day / 36524 = century := by omega
      have h₂ : day / 146096 = 0 := by omega
      omega
    · rfl
  omega

theorem dayOfYear_eq (h : Placed day century cycle year dayOfYear) {y : Int}
    (hy : y = 100 * century + 4 * cycle + year) :
    day - (365 * y + y / 4 - y / 100) = dayOfYear := by
  obtain ⟨hc, hq, hr, ht, hleap, rfl⟩ := h
  omega

end Placed

/-- The days before a year, counted from the year zero. -/
def daysBefore (year : Int) : Int := 365 * year + year / 4 - year / 100 + year / 400

theorem daysBefore_era (year : Int) :
    daysBefore year =
      year / 400 * 146097 + (year % 400 * 365 + year % 400 / 4 - year % 400 / 100) := by
  have h₁ : year / 4 = year / 400 * 100 + year % 400 / 4 := by omega
  have h₂ : year / 100 = year / 400 * 4 + year % 400 / 100 := by omega
  unfold daysBefore
  omega

/-- The date of a day of a year that starts in March. -/
def dateIn (year dayOfYear : Int) : Date :=
  let month := (5 * dayOfYear + 2) / 153
  let monthOfYear := if month < 10 then month + 3 else month - 9
  ⟨if monthOfYear ≤ 2 then year + 1 else year, monthOfYear.toNat,
    (dayOfYear - (153 * month + 2) / 5 + 1).toNat⟩

theorem dayOf_dateIn {year dayOfYear : Int} (h₀ : 0 ≤ dayOfYear) (h₁ : dayOfYear ≤ 365) :
    dayOf (dateIn year dayOfYear) = daysBefore year + dayOfYear - 719468 := by
  obtain ⟨month, hmonth⟩ : ∃ m, m = (5 * dayOfYear + 2) / 153 := ⟨_, rfl⟩
  have hbounds : 0 ≤ month ∧ month ≤ 11 := by omega
  simp only [dateIn, dayOf, ← hmonth, daysBefore_era]
  by_cases hlate : month < 10
  · have hm : (((month + 3).toNat : Int) + 9) % 12 = month := by omega
    simp only [if_pos hlate, hm]
    rw [if_neg (by omega), if_neg (by omega)]
    omega
  · have hm : (((month - 9).toNat : Int) + 9) % 12 = month := by omega
    simp only [if_neg hlate, hm]
    rw [if_pos (by omega), if_pos (by omega), Int.add_sub_cancel]
    omega

theorem exists_dateIn {year dayOfYear : Int} (h₀ : 0 ≤ dayOfYear) (h₁ : dayOfYear ≤ 365)
    (hleap : dayOfYear = 365 → isLeapYear (year + 1) = true) :
    (dateIn year dayOfYear).exists? = true := by
  obtain ⟨month, hmonth⟩ : ∃ m, m = (5 * dayOfYear + 2) / 153 := ⟨_, rfl⟩
  have hbounds : 0 ≤ month ∧ month ≤ 11 := by omega
  simp only [dateIn, Date.exists?, ← hmonth, daysInMonth, Bool.and_eq_true, decide_eq_true_eq]
  by_cases hfebruary : month = 11
  · subst hfebruary
    by_cases hlast : dayOfYear = 365
    · simp [hlast, hleap hlast]
    · simp
      split <;> omega
  · obtain ⟨hmonth₀, hmonth₁⟩ : 0 ≤ month ∧ month ≤ 10 := by omega
    interval_cases month <;> simp <;> omega

theorem dateOf_eq {day century cycle year dayOfYear : Int}
    (h : Placed ((day + 719468) % 146097) century cycle year dayOfYear) :
    dateOf day = dateIn
      (100 * century + 4 * cycle + year + (day + 719468) / 146097 * 400) dayOfYear := by
  simp only [dateOf, dateIn, h.yearOfEra_eq, h.dayOfYear_eq rfl]

/-- Every day has a date, which lies in a year that starts in March. -/
theorem exists_year (day : Int) : ∃ year dayOfYear, dateOf day = dateIn year dayOfYear ∧
    0 ≤ dayOfYear ∧ dayOfYear ≤ 365 ∧ (dayOfYear = 365 → isLeapYear (year + 1) = true) ∧
    day = daysBefore year + dayOfYear - 719468 := by
  obtain ⟨century, cycle, year, dayOfYear, h⟩ :=
    exists_placed (Int.emod_nonneg (day + 719468) (by decide))
      (Int.emod_lt_of_pos (day + 719468) (by decide))
  refine ⟨_, dayOfYear, dateOf_eq h, h.dayOfYear_bounds.1, h.dayOfYear_bounds.2, ?_, ?_⟩
  · intro hlast
    obtain ⟨rfl, hcycle⟩ := h.leap hlast
    have := h.cycle_bounds
    simp only [isLeapYear, Bool.and_eq_true, Bool.or_eq_true, decide_eq_true_eq]
    omega
  · obtain ⟨hcentury, hcycle, hyear, -, -, hday⟩ := h
    have hera : (100 * century + 4 * cycle + year + (day + 719468) / 146097 * 400) / 400 =
        (day + 719468) / 146097 := by
      omega
    rw [daysBefore_era, hera]
    omega

theorem dayOf_dateOf (day : Int) : dayOf (dateOf day) = day := by
  obtain ⟨year, dayOfYear, hdate, h₀, h₁, -, hday⟩ := exists_year day
  rw [hdate, dayOf_dateIn h₀ h₁]
  exact hday.symm

theorem exists_dateOf (day : Int) : (dateOf day).exists? = true := by
  obtain ⟨year, dayOfYear, hdate, h₀, h₁, hleap, -⟩ := exists_year day
  rw [hdate]
  exact exists_dateIn h₀ h₁ hleap

/-- The year of a date starts in January, on day 306 of the year before it. -/
theorem year_dateIn {year dayOfYear : Int} (h₀ : 0 ≤ dayOfYear) (h₁ : dayOfYear ≤ 365) :
    (dateIn year dayOfYear).year = if dayOfYear < 306 then year else year + 1 := by
  simp only [dateIn]
  split <;> split <;> omega

theorem daysBefore_add_one (year : Int) : daysBefore year + 365 ≤ daysBefore (year + 1) := by
  unfold daysBefore
  omega

theorem daysBefore_le {a b : Int} (h : a ≤ b) : daysBefore a ≤ daysBefore b := by
  refine monotone_int_of_le_succ (fun year => ?_) h
  have := daysBefore_add_one year
  omega

theorem year_dateOf_bounds {day : Int} (h₀ : -96465292 ≤ day) (h₁ : day ≤ 95026236) :
    -262143 ≤ (dateOf day).year ∧ (dateOf day).year ≤ 262142 := by
  obtain ⟨year, dayOfYear, hdate, ht₀, ht₁, -, hday⟩ := exists_year day
  have hfirst : daysBefore (-262144) = -95746130 := by decide
  have hlast : daysBefore 262142 = 95745399 := by decide
  have hfrom : -262144 ≤ year := by
    by_contra hearly
    have := daysBefore_add_one year
    have := daysBefore_le (show year + 1 ≤ -262144 by omega)
    omega
  have huntil : year ≤ 262142 := by
    by_contra hlate
    have := daysBefore_add_one 262142
    have := daysBefore_le (show 262142 + 1 ≤ year by omega)
    omega
  -- in the two outermost years, the day decides on which side of New Year it lies
  rw [hdate, year_dateIn ht₀ ht₁]
  split
  · refine ⟨?_, huntil⟩
    by_contra hearly
    obtain rfl : year = -262144 := by omega
    omega
  · refine ⟨by omega, ?_⟩
    by_contra hlate
    obtain rfl : year = 262142 := by omega
    omega

end WorkQueue.Calendar
