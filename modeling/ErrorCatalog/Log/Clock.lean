import ErrorCatalog.Log.Layout

/-!
# `ErrorCatalog/Log/Clock.lean` — times as text

The present time is written as a date and a time of day in universal time, to the microsecond. A
duration is written for people: three digits and the unit that makes them fit.

The date of a day is computed with years that start in March. The leap day is then the last day of
its year, and the lengths of the months follow one linear rule.
-/

set_option autoImplicit false

namespace ErrorCatalog

/-! ## 1. Dates -/

structure Date where
  year : Nat
  month : Nat
  day : Nat
deriving DecidableEq

/-- The days from the first of March of the year 0 to the first of January 1970. -/
def daysToEpoch : Nat := 719468

def daysInEra : Nat := 146097

/-- The date that is so many days after the first of January 1970. -/
def Date.ofDay (days : Nat) : Date :=
  let era := (days + daysToEpoch) / daysInEra
  let dayOfEra := (days + daysToEpoch) % daysInEra
  let yearOfEra :=
    (dayOfEra - dayOfEra / 1460 + dayOfEra / 36524 - dayOfEra / (daysInEra - 1)) / 365
  let dayOfYear := dayOfEra - (365 * yearOfEra + yearOfEra / 4 - yearOfEra / 100)
  let monthFromMarch := (5 * dayOfYear + 2) / 153
  let month := if monthFromMarch < 10 then monthFromMarch + 3 else monthFromMarch - 9
  { year := 400 * era + yearOfEra + (if month ≤ 2 then 1 else 0)
    month
    day := dayOfYear - (153 * monthFromMarch + 2) / 5 + 1 }

example : Date.ofDay 0 = ⟨1970, 1, 1⟩ ∧ Date.ofDay 789 = ⟨1972, 2, 29⟩ ∧
    Date.ofDay 20454 = ⟨2026, 1, 1⟩ := by decide +kernel

/-! ## 2. Text -/

/-- A number on a fixed count of digits. -/
def digits (count n : Nat) : Text := Text.padLeft '0' count (Text.ofNat n)

/-- The time that is so many microseconds after the first moment of 1970. -/
def timestampText (microseconds : Nat) : Text :=
  let seconds := microseconds / 1000000
  let date := Date.ofDay (seconds / 86400)
  digits 4 date.year ++ '-' :: digits 2 date.month ++ '-' :: digits 2 date.day ++
    'T' :: digits 2 (seconds / 3600 % 24) ++ ':' :: digits 2 (seconds / 60 % 60) ++
    ':' :: digits 2 (seconds % 60) ++ '.' :: digits 6 (microseconds % 1000000) ++ ['Z']

def durationUnits : List (Nat × Text) :=
  [(1, "ns".toList), (1000, "µs".toList), (1000000, "ms".toList), (1000000000, "s".toList)]

/-- A duration with three digits. -/
def durationText (nanoseconds : Nat) : Text :=
  let (size, unit) :=
    (durationUnits.find? fun u => nanoseconds < 1000 * u.1).getD (1000000000, "s".toList)
  let whole := nanoseconds / size
  let hundredths := 100 * nanoseconds / size % 100
  let places :=
    if whole < 10 then '.' :: digits 2 hundredths
    else if whole < 100 then '.' :: digits 1 (hundredths / 10)
    else []
  Text.ofNat whole ++ places ++ unit

example : timestampText 1767324245678901 = "2026-01-02T03:24:05.678901Z".toList ∧
    durationText 12345 = "12.3µs".toList := by decide +kernel

end ErrorCatalog
