import CertMint.Time.Calendar
import CertMint.Number.Binary64

/-! # Moments

A moment is a date and a time of day to the microsecond, with or without an offset from universal
time. Moments lie in the years 1 to 9999 of their own clock; an operation that would leave them is
refused.
-/

namespace CertMint

/-- Microseconds of a second. -/
def second : Int := 1000000

/-- Microseconds of a day. -/
def day : Int := 86400 * second

/-- A date and time of day, with or without an offset from universal time. -/
structure Moment where
  /-- Microseconds of the moment's own clock since 0001-01-01T00:00:00. -/
  clock : Int
  /-- How many microseconds the clock is ahead of universal time, if that is known. -/
  offset : Option Int
  deriving DecidableEq, Repr, Inhabited

namespace Moment

/-- Whether a clock reading lies in the years 1 to 9999. -/
def inYears (clock : Int) : Bool := 0 ≤ clock && clock < Calendar.lastDay * day

/-- The moment later by some microseconds, if it lies in the years 1 to 9999. -/
def add? (m : Moment) (span : Int) : Option Moment :=
  if inYears (m.clock + span) then some { m with clock := m.clock + span } else none

/-- The same moment on a clock of universal time, if that reading lies in the years 1 to 9999. A
    moment without offset is taken as one of universal time. -/
def toUniversal? (m : Moment) : Option Moment :=
  let clock := m.clock - m.offset.getD 0
  if inYears clock then some ⟨clock, some 0⟩ else none

/-- How two moments compare, unless only one of them has an offset. -/
def compare? (a b : Moment) : Option Ordering :=
  match a.offset, b.offset with
  | none, none => some (compare a.clock b.clock)
  | some p, some q => some (compare (a.clock - p) (b.clock - q))
  | _, _ => none

def date (m : Moment) : Calendar.Date := Calendar.dateOf (m.clock / day).toNat

/-- Microseconds since midnight of the moment's clock. -/
def ofDay (m : Moment) : Nat := (m.clock % day).toNat

/-- Hour, minute, second and microsecond of the moment's clock. -/
def time (m : Moment) : Nat × Nat × Nat × Nat :=
  let u := m.ofDay
  (u / 3600000000, u / 60000000 % 60, u / 1000000 % 60, u % 1000000)

/-- A moment from a date and microseconds since midnight. -/
def ofDate (d : Calendar.Date) (micros : Nat) (offset : Option Int) : Moment :=
  ⟨Calendar.dayOf d * day + micros, offset⟩

/-- The moment without its microseconds. -/
def truncate (m : Moment) : Moment := { m with clock := m.clock / second * second }

/-- Decimal text with at least `width` digits. -/
def padded (width n : Nat) : List Char :=
  let ds := Nat.toDigits 10 n
  List.replicate (width - ds.length) '0' ++ ds

/-- Hours, minutes and, unless zero, seconds and microseconds. -/
def clockText (micros : Nat) (withSeconds : Bool) : List Char :=
  let seconds := micros / 1000000
  let fraction := micros % 1000000
  let hm := padded 2 (seconds / 3600) ++ ':' :: padded 2 (seconds / 60 % 60)
  let hms := if withSeconds || seconds % 60 ≠ 0 || fraction ≠ 0
    then hm ++ ':' :: padded 2 (seconds % 60) else hm
  if fraction = 0 then hms else hms ++ '.' :: padded 6 fraction

def offsetText (offset : Int) : List Char :=
  (if offset < 0 then '-' else '+') :: clockText offset.natAbs false

def dateText (m : Moment) : List Char :=
  let d := m.date
  padded 4 d.year ++ '-' :: padded 2 d.month ++ '-' :: padded 2 d.day

/-- The text of a moment with a character between date and time. -/
def textWith (separator : Char) (m : Moment) : String :=
  String.ofList (m.dateText ++ separator :: clockText m.ofDay true ++ match m.offset with
    | some offset => offsetText offset
    | none => [])

/-- The ISO 8601 text: `2024-06-15T12:00:00.500000+00:00`. -/
def iso : Moment → String := textWith 'T'

/-- Read exactly `width` ASCII digits. -/
def takeNumber? : Nat → List Char → Option (Nat × List Char)
  | 0, cs => some (0, cs)
  | width + 1, cs =>
    let rec go : Nat → Nat → List Char → Option (Nat × List Char)
      | 0, n, cs => some (n, cs)
      | k + 1, n, c :: cs => if c.isDigit then go k (10 * n + (c.toNat - 48)) cs else none
      | _ + 1, _, [] => none
    go (width + 1) 0 cs

/-- A fraction of a second as microseconds: six digits, the rest cut. -/
def takeFraction (cs : List Char) : Nat × List Char :=
  let ds := cs.takeWhile Char.isDigit
  let six := (ds ++ List.replicate 6 '0').take 6
  (six.foldl (fun n c => 10 * n + (c.toNat - 48)) 0, cs.dropWhile Char.isDigit)

/-- Hours and minutes, then seconds and a fraction if they are there, as microseconds. -/
def takeClock? (cs : List Char) : Option (Nat × List Char) := do
  let (h, cs) ← takeNumber? 2 cs
  match cs with
  | ':' :: cs =>
    let (m, cs) ← takeNumber? 2 cs
    match cs with
    | ':' :: cs =>
      let (s, cs) ← takeNumber? 2 cs
      let (f, cs) := match cs with
        | '.' :: cs => takeFraction cs
        | cs => (0, cs)
      if h < 24 ∧ m < 60 ∧ s < 60 then some (((h * 60 + m) * 60 + s) * 1000000 + f, cs) else none
    | cs => if h < 24 ∧ m < 60 then some ((h * 60 + m) * 60000000, cs) else none
  | cs => if h < 24 then some (h * 3600000000, cs) else none

/-- An offset at the end of a text. -/
def takeOffset? : List Char → Option (Option Int)
  | [] => some none
  | ['Z'] => some (some 0)
  | '+' :: cs => do
    let (u, rest) ← takeClock? cs
    if rest.isEmpty then some (some u) else none
  | '-' :: cs => do
    let (u, rest) ← takeClock? cs
    if rest.isEmpty then some (some (-(u : Int))) else none
  | _ => none

/-- Read an ISO 8601 text; a date alone is its midnight. -/
def ofIso? (s : String) : Option Moment := do
  let (y, cs) ← takeNumber? 4 s.toList
  let ('-' :: cs) := cs | none
  let (m, cs) ← takeNumber? 2 cs
  let ('-' :: cs) := cs | none
  let (d, cs) ← takeNumber? 2 cs
  let date : Calendar.Date := ⟨y, m, d⟩
  if !date.exists then none
  else match cs with
    | [] => some (ofDate date 0 none)
    | _ :: cs => do
      let (u, cs) ← takeClock? cs
      let offset ← takeOffset? cs
      some (ofDate date u offset)

end Moment

end CertMint
