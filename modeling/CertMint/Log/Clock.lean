import CertMint.Fault

/-! # Seconds as moments

Log records are stamped with seconds since 1970. They are written as the moment that local clocks show
then: in full in log files, and to the millisecond on the console.
-/

namespace CertMint.Log

def epochDay : Int := 719162

/-- The seconds that local time is ahead of universal time, at each second since 1970. -/
abbrev Zone : Type := Int → Int

/-- The year of a day, for days before 0001-01-01 as well. -/
def yearOfDay (days : Int) : Int :=
  400 * (days / 146097) + (Calendar.yearOf (days % 146097).toNat).1

/-- The fault of seconds that no clock can show. -/
def outOfClock : Fault := .of .overflow "timestamp out of range for platform time_t"

/-- The year of seconds, as far as calendars of the system go. -/
def checkYear (seconds : Int) : Except Fault Int :=
  let year := yearOfDay (seconds / 86400 + epochDay)
  if year < -2147481748 ∨ 2147485547 < year then
    .error (.of .system "[Errno 75] Value too large for defined data type")
  else .ok (if 2147483647 < year then year - 4294967296 else year)

/-- Whole seconds and microseconds of a number of seconds; a half microsecond goes to the even
    neighbour. -/
def splitSeconds (x : Binary64) : Except Fault (Int × Int) :=
  match x.truncate? with
  | none =>
    if x == .nan then .error (.of .value "Invalid value NaN (not a number)")
    else .error outOfClock
  | some whole =>
    let micros := ((x.sub (.ofInt whole)).mul (.ofInt 1000000)).round?.getD 0
    let total := whole * 1000000 + micros
    if whole < -9223372036854775808 ∨ 9223372036854775807 < whole then .error outOfClock
    else .ok (total / 1000000, total % 1000000)

/-- The fault of a year outside 1 to 9999. -/
def outOfYears (year : Int) : Fault := .of .value ("year " ++ toString year ++ " is out of range")

/-- The seconds that local clocks show, which have to be in the years 1 to 9999. -/
def localSeconds (zone : Zone) (seconds : Int) : Except Fault Int := do
  let shown := seconds + zone seconds
  let year ← checkYear shown
  if year < 1 ∨ 9999 < year then throw (outOfYears year)
  return shown

/-- The moment that local clocks show at a number of seconds. What they showed a day before tells whether
    they were set back since; if they were, what they showed so much earlier tells whether the hour is
    repeated. Each of these is looked up, and none of them may be outside the years. -/
def momentOfSeconds (zone : Zone) (x : Binary64) : Except Fault Moment := do
  let (seconds, micros) ← splitSeconds x
  let shown ← localSeconds zone seconds
  let before ← localSeconds zone (seconds - 86400)
  let gained := shown - before - 86400
  if gained < 0 then let _ ← localSeconds zone (seconds + gained)
  return ⟨(shown + epochDay * 86400) * 1000000 + micros, none⟩

/-- The number of seconds of a moment. A moment without an offset is taken as universal time. -/
def secondsOfMoment (m : Moment) : Binary64 :=
  let micros := m.clock - m.offset.getD 0 - epochDay * day
  .ofRatio (decide (micros < 0)) micros.natAbs 1000000

def floor? (x : Binary64) : Option Int := do
  let whole ← x.truncate?
  if x.compareInt? whole = some .lt then some (whole - 1) else some whole

/-- An integer with at least `width` characters, filled with zeros after the sign. -/
def signedPadded (width : Nat) (i : Int) : List Char :=
  if i < 0 then '-' :: Moment.padded (width - 1) i.natAbs else Moment.padded width i.natAbs

/-- Local date and time of a number of seconds as the console shows them, with milliseconds. -/
def consoleTime (zone : Zone) (x : Binary64) : Except Fault String := do
  let some since := floor? x
    | throw (if x == .nan then .of .value "Invalid value NaN (not a number)" else outOfClock)
  let seconds := since + zone since
  let year ← checkYear seconds
  let days := seconds / 86400 + epochDay
  let date := Calendar.dateOf (days % 146097).toNat
  let ofDay := (seconds % 86400).toNat
  let two := Moment.padded 2
  let whole := x.truncate?.getD 0
  let millis := ((x.sub (.ofInt whole)).mul (.ofInt 1000)).truncate?.getD 0
  return toString year ++ String.ofList ('-' :: two date.month ++ '-' :: two date.day
    ++ ' ' :: two (ofDay / 3600) ++ ':' :: two (ofDay / 60 % 60) ++ ':' :: two (ofDay % 60)
    ++ ',' :: signedPadded 3 millis)

end CertMint.Log
