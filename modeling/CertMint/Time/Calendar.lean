/-! # The calendar

Days counted from 0001-01-01 (day 0) in the Gregorian calendar, and the year, month and day of each.
-/

namespace CertMint.Calendar

def isLeap (year : Nat) : Bool :=
  year % 4 = 0 && (year % 100 ≠ 0 || year % 400 = 0)

/-- The lengths of the months of a year. -/
def monthLengths (year : Nat) : List Nat :=
  [31, if isLeap year then 29 else 28, 31, 30, 31, 30, 31, 31, 30, 31, 30, 31]

/-- A day by its year, month (from 1) and day of the month (from 1). -/
structure Date where
  year : Nat
  /-- The month, from 1. -/
  month : Nat
  /-- The day of the month, from 1. -/
  day : Nat
  deriving DecidableEq, Repr, Inhabited

/-- The number of days from 0001-01-01 to the first day of a year. -/
def daysBeforeYear (year : Nat) : Nat :=
  365 * (year - 1) + (year - 1) / 4 - (year - 1) / 100 + (year - 1) / 400

/-- The year of a day, and the number of days before it in that year. -/
def yearOf (n : Nat) : Nat × Nat :=
  let era := n / 146097
  let inEra := n % 146097
  let century := min (inEra / 36524) 3
  let inCentury := inEra - 36524 * century
  let olympiad := inCentury / 1461
  let inOlympiad := inCentury % 1461
  let year := min (inOlympiad / 365) 3
  (400 * era + 100 * century + 4 * olympiad + year + 1, inOlympiad - 365 * year)

/-- The month and day of a day in a year, given the months' lengths and the number of the first. -/
def monthOf (month : Nat) : List Nat → Nat → Nat × Nat
  | [], n => (month, n + 1)
  | length :: rest, n => if n < length then (month, n + 1) else monthOf (month + 1) rest (n - length)

def dateOf (n : Nat) : Date :=
  let (year, inYear) := yearOf n
  let (month, day) := monthOf 1 (monthLengths year) inYear
  ⟨year, month, day⟩

def Date.exists (d : Date) : Bool :=
  1 ≤ d.year && 1 ≤ d.month && 1 ≤ d.day &&
    (match (monthLengths d.year)[d.month - 1]? with
     | some length => d.day ≤ length
     | none => false)

/-- The number of days of the first months, given the months' lengths. -/
def daysBeforeMonth : List Nat → Nat → Nat
  | length :: rest, months + 1 => length + daysBeforeMonth rest months
  | _, _ => 0

def dayOf (d : Date) : Nat :=
  daysBeforeYear d.year + daysBeforeMonth (monthLengths d.year) (d.month - 1) + (d.day - 1)

/-- The number of days of the years 1 to 9999. -/
def lastDay : Nat := 3652059

end CertMint.Calendar
