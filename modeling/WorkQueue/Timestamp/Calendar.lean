/-!
# The calendar

Conversion between days since 1970 and dates of the proleptic Gregorian calendar. Years are counted
from March, so that the leap day ends a year, and in eras of 400 years of equal length.

## Main definitions

* `Calendar.dayOf`: the day number of a date
* `Calendar.dateOf`: the date of a day number
-/

namespace WorkQueue.Calendar

/-- A date: year, month from one, and day of the month from one. -/
structure Date where
  year : Int
  month : Nat
  day : Nat
  deriving DecidableEq, Inhabited

def isLeapYear (year : Int) : Bool :=
  year % 4 = 0 && (year % 100 ≠ 0 || year % 400 = 0)

/-- The number of days of a month. -/
def daysInMonth (year : Int) (month : Nat) : Nat :=
  if month = 2 then if isLeapYear year then 29 else 28
  else if month = 4 ∨ month = 6 ∨ month = 9 ∨ month = 11 then 30
  else 31

/-- A date exists when its month and its day of the month do. -/
def Date.exists? (d : Date) : Bool :=
  1 ≤ d.month && d.month ≤ 12 && 1 ≤ d.day && d.day ≤ daysInMonth d.year d.month

/-- The day number of a date, counted from the first day of 1970. -/
def dayOf (d : Date) : Int :=
  let year := if d.month ≤ 2 then d.year - 1 else d.year
  let era := year / 400
  let yearOfEra := year % 400
  let month : Int := (d.month + 9) % 12
  let dayOfYear := (153 * month + 2) / 5 + d.day - 1
  let dayOfEra := yearOfEra * 365 + yearOfEra / 4 - yearOfEra / 100 + dayOfYear
  era * 146097 + dayOfEra - 719468

/-- The date of a day number. -/
def dateOf (day : Int) : Date :=
  let day := day + 719468
  let era := day / 146097
  let dayOfEra := day % 146097
  let yearOfEra := (dayOfEra - dayOfEra / 1460 + dayOfEra / 36524 - dayOfEra / 146096) / 365
  let dayOfYear := dayOfEra - (365 * yearOfEra + yearOfEra / 4 - yearOfEra / 100)
  let month := (5 * dayOfYear + 2) / 153
  let monthOfYear := if month < 10 then month + 3 else month - 9
  let year := yearOfEra + era * 400
  ⟨if monthOfYear ≤ 2 then year + 1 else year, monthOfYear.toNat,
    (dayOfYear - (153 * month + 2) / 5 + 1).toNat⟩

example : dayOf ⟨1970, 1, 1⟩ = 0 ∧ dateOf 0 = ⟨1970, 1, 1⟩ := by decide
example : dayOf ⟨2000, 2, 29⟩ = 11016 ∧ dateOf 11016 = ⟨2000, 2, 29⟩ := by decide
example : dateOf (dayOf ⟨-262143, 1, 1⟩) = ⟨-262143, 1, 1⟩ := by decide

end WorkQueue.Calendar
