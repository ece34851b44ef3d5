/-!
# Timestamps

The text of a moment of universal time, such as `2024-02-29T23:59:59.000001Z`, from the number of
microseconds since the beginning of the year 1970. Years are counted by the Gregorian calendar,
from its cycles of four hundred years.

## Main results

* `dateOfDay_bounds`: every day has a month and a number of the calendar.
-/

namespace SelectorSearch.Text

/-- A day of the calendar, by year, month and number. -/
structure CalendarDay where
  year : Nat
  month : Nat
  day : Nat
  deriving DecidableEq, Repr

/-- The number of days in four hundred years, after which the calendar repeats itself. -/
def daysOfCycle : Nat := 146097

/-- The number of days from the first of March of the year zero to the beginning of 1970. -/
def daysBefore1970 : Nat := 719468

/-- The calendar day of the day with some number, where the first of January 1970 has number zero.
Years are taken to begin in March, so that a leap day is the last day of its year. -/
def dateOfDay (number : Nat) : CalendarDay :=
  let n := number + daysBefore1970
  let cycle := n / daysOfCycle
  let dayOfCycle := n % daysOfCycle
  let yearOfCycle :=
    (dayOfCycle - dayOfCycle / 1460 + dayOfCycle / 36524 - dayOfCycle / 146096) / 365
  let dayOfYear := dayOfCycle - (365 * yearOfCycle + yearOfCycle / 4 - yearOfCycle / 100)
  let monthFromMarch := (5 * dayOfYear + 2) / 153
  let month := if monthFromMarch < 10 then monthFromMarch + 3 else monthFromMarch - 9
  { year := cycle * 400 + yearOfCycle + (if month ≤ 2 then 1 else 0)
    month
    day := dayOfYear - (153 * monthFromMarch + 2) / 5 + 1 }

/-- A number `n` with at least as many digits as wanted. -/
def padded (width n : Nat) : String :=
  let digits := toString n
  String.ofList (List.replicate (width - digits.length) '0') ++ digits

/-- The text of a moment, given by the microseconds since the beginning of 1970. -/
def ofMicroseconds (micros : Nat) : String :=
  let seconds := micros / 1000000
  let date := dateOfDay (seconds / 86400)
  padded 4 date.year ++ "-" ++ padded 2 date.month ++ "-" ++ padded 2 date.day ++ "T"
    ++ padded 2 (seconds / 3600 % 24) ++ ":" ++ padded 2 (seconds / 60 % 60) ++ ":"
    ++ padded 2 (seconds % 60) ++ "." ++ padded 6 (micros % 1000000) ++ "Z"

/-- Day `d` of a cycle of four hundred years lies in year `y` of the cycle, where `y` is found by
taking the leap days from `d` before it is divided by 365. -/
theorem yearOfCycle_bounds {d y : Nat} (hd : d < daysOfCycle)
    (hy : (d - d / 1460 + d / 36524 - d / 146096) / 365 = y) :
    365 * y + y / 4 - y / 100 ≤ d ∧ d ≤ 365 * y + y / 4 - y / 100 + 365 := by
  rw [daysOfCycle] at hd
  have hfour : y / 4 ≤ d / 1460 ∧ d / 1460 ≤ y / 4 + 1 := by omega
  have hcentury : d / 36524 = 0 ∨ d / 36524 = 1 ∨ d / 36524 = 2 ∨ d / 36524 = 3 ∨
      d / 36524 = 4 := by omega
  rcases hcentury with hc | hc | hc | hc | hc <;> rw [hc] at hy <;> omega

/-- **Every day has a month and a number of the calendar**, whatever its number since 1970 is. -/
theorem dateOfDay_bounds (number : Nat) :
    1 ≤ (dateOfDay number).month ∧ (dateOfDay number).month ≤ 12 ∧
      1 ≤ (dateOfDay number).day ∧ (dateOfDay number).day ≤ 31 := by
  have hday : (number + daysBefore1970) % daysOfCycle < daysOfCycle := Nat.mod_lt _ (by decide)
  rw [dateOfDay]
  generalize (number + daysBefore1970) % daysOfCycle = d at *
  obtain ⟨y, hy⟩ : ∃ y, (d - d / 1460 + d / 36524 - d / 146096) / 365 = y := ⟨_, rfl⟩
  have hlast : d - (365 * y + y / 4 - y / 100) ≤ 365 := by
    have := (yearOfCycle_bounds hday hy).2
    omega
  simp only [hy]
  generalize d - (365 * y + y / 4 - y / 100) = dayOfYear at *
  refine ⟨?_, ?_, ?_, ?_⟩
  · split <;> omega
  · split <;> omega
  · omega
  · omega

example : dateOfDay 0 = ⟨1970, 1, 1⟩ := by decide

example : dateOfDay 19782 = ⟨2024, 2, 29⟩ := by decide

end SelectorSearch.Text
