/-
  Civil dates in UTC, as JavaScript's `Date` computes them: `get_full_year` and
  `set_full_year` of `calculate_exact_days_for_years` in `utils/mod.rs`.

  Years are counted from March, so that a leap day ends its year.
-/
import Mathlib.Data.Int.Basic

namespace ProviiVerifier

/-- A date: year, month from 1, day from 1. -/
structure CivilDate where
  year : Int
  month : Int
  day : Int
  deriving DecidableEq, Repr

/-- The day number of a date, with day 0 on 1 January 1970. A day after the end of its month
counts on into the next one. -/
def daysFromCivil (date : CivilDate) : Int :=
  let year := if date.month ≤ 2 then date.year - 1 else date.year
  let era := year / 400
  let yearOfEra := year % 400
  let month := if date.month > 2 then date.month - 3 else date.month + 9
  let dayOfYear := (153 * month + 2) / 5 + date.day - 1
  let dayOfEra := yearOfEra * 365 + yearOfEra / 4 - yearOfEra / 100 + dayOfYear
  era * 146097 + dayOfEra - 719468

/-- The date of a day number. -/
def civilFromDays (days : Int) : CivilDate :=
  let shifted := days + 719468
  let era := shifted / 146097
  let dayOfEra := shifted % 146097
  let yearOfEra := (dayOfEra - dayOfEra / 1460 + dayOfEra / 36524 - dayOfEra / 146096) / 365
  let dayOfYear := dayOfEra - (365 * yearOfEra + yearOfEra / 4 - yearOfEra / 100)
  let month := (5 * dayOfYear + 2) / 153
  let day := dayOfYear - (153 * month + 2) / 5 + 1
  let civilMonth := if month < 10 then month + 3 else month - 9
  let year := yearOfEra + era * 400
  ⟨if civilMonth ≤ 2 then year + 1 else year, civilMonth, day⟩

/-- The seconds of a day. -/
def secondsPerDay : Nat := 86400

/-- `calculate_exact_days_for_years` at a reading of the clock: the days since the same date
the given number of years ago. -/
def calculateExactDaysForYears (now years : Nat) : Nat :=
  let today : Int := (now / secondsPerDay : Nat)
  let date := civilFromDays today
  (today - daysFromCivil { date with year := date.year - years }).toNat

example : civilFromDays 19782 = ⟨2024, 2, 29⟩ := by decide

example : calculateExactDaysForYears (19782 * secondsPerDay) 18 = 6574 := by decide

end ProviiVerifier
