import CertMint.Mint.Workshop
import CertMint.Settings.Basic

/-! # Validity windows

The time during which a certificate is current: an interval between two moments, the first before the
last. Settings say how many days the ends of a valid and of an expired window lie from now.
-/

namespace CertMint.Mint

/-- The fault of comparing a moment with an offset and one without. -/
def incomparable : Fault := .of .type "can't compare offset-naive and offset-aware datetimes"

def compareMoments (a b : Moment) : Except Fault Ordering :=
  match a.compare? b with
  | some o => .ok o
  | none => .error incomparable

/-- An interval of moments. -/
structure Window where
  notBefore : Moment
  notAfter : Moment
  ordered : notBefore.compare? notAfter = some .lt

namespace Window

def of (notBefore notAfter : Moment) : Except Fault Window :=
  if h : notBefore.compare? notAfter = some .lt then .ok ⟨notBefore, notAfter, h⟩
  else match notBefore.compare? notAfter with
    | none => .error incomparable
    | some _ => .error (.of .value "not_before must be earlier than not_after")

/-- Whether a moment lies between two others, ends included. -/
def between (first last m : Moment) : Except Fault Bool := do
  if (← compareMoments first m) = .gt then return false
  return (← compareMoments m last) ≠ .gt

def contains (w : Window) (m : Moment) : Except Fault Bool := between w.notBefore w.notAfter m

/-! ## Spans of days -/

def maxDays : Int := 999999999

/-- A number of microseconds as a span, if it is not too long. -/
def spanOf (micros : Int) : Except Fault Int :=
  let days := micros / day
  if days < -2147483648 ∨ 2147483647 < days then
    .error (.of .overflow "Python int too large to convert to C int")
  else if days < -maxDays ∨ maxDays < days then
    .error (.of .overflow
      ("days=" ++ toString days ++ "; must have magnitude <= " ++ toString maxDays))
  else .ok micros

/-- The microseconds of a number of days: the whole days exactly, the part of a day rounded once to
    a binary64 number of microseconds and then to the nearest whole one. -/
def realDays (x : Binary64) : Except Fault Int :=
  match x.truncate? with
  | none =>
    if x == .nan then .error (.of .value "cannot convert float NaN to integer")
    else .error (.of .overflow "cannot convert float infinity to integer")
  | some whole =>
    let part := (x.sub (.ofInt whole)).mul (.ofInt day)
    .ok (whole * day + part.round?.getD 0)

/-- The microseconds of days given by a datum. -/
def daysOf (d : Datum) : Except Fault Int :=
  match d.int?, d with
  | some i, _ => spanOf (i * day)
  | none, .real x => do spanOf (← realDays x)
  | none, d => .error (.of .type ("unsupported type for timedelta days component: " ++ d.kindName))

def later (m : Moment) (d : Datum) : Except Fault Moment := do
  match m.add? (← daysOf d) with
  | some m => return m
  | none => throw Work.outOfYears

def earlier (m : Moment) (d : Datum) : Except Fault Moment := do
  match m.add? (-(← daysOf d)) with
  | some m => return m
  | none => throw Work.outOfYears

/-- The valid or the expired window of settings, seen from a moment. -/
def ofSettings (s : Settings) (valid : Bool) (now : Moment) : Except Fault Window := do
  if valid then
    let notBefore ← earlier now s.validNotBefore
    let notAfter ← later now s.validNotAfter
    of notBefore notAfter
  else
    let notBefore ← earlier now s.expiredNotBefore
    let notAfter ← earlier now s.expiredNotAfter
    of notBefore notAfter

end Window

end CertMint.Mint
