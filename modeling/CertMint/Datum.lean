import CertMint.Number.Shortest
import CertMint.Number.Integer
import CertMint.Text.Quoted
import CertMint.Time.Moment

/-! # Data

What callers put into settings, log records and measurements is not fixed in advance: a field may
hold any datum. This module has the data, how they compare, how deep they are nested, and their two texts:
the shown form, in which texts stand between quotes, and the plain form, in which a text is itself.
-/

namespace CertMint

/-- A datum. -/
inductive Datum where
  | none
  /-- A truth value; where a number is expected it counts as 0 or 1. -/
  | bool (b : Bool)
  | int (i : Int)
  | real (x : Binary64)
  | text (s : String)
  | octets (bs : List UInt8)
  | list (items : List Datum)
  /-- A tuple, which differs from a list with the same items. -/
  | tuple (items : List Datum)
  /-- Entries, each a key and what it stands for, in the order in which they were made. -/
  | record (entries : List (Datum × Datum))
  | moment (m : Moment)
  deriving Inhabited

namespace Datum

/-- The name of the kind of datum, as messages give it. -/
def kindName : Datum → String
  | .none => "NoneType"
  | .bool _ => "bool"
  | .int _ => "int"
  | .real _ => "float"
  | .text _ => "str"
  | .octets _ => "bytes"
  | .list _ => "list"
  | .tuple _ => "tuple"
  | .record _ => "dict"
  | .moment _ => "datetime.datetime"

/-- The name of the kind of datum without the place where the kind is defined. -/
def bareKindName : Datum → String
  | .moment _ => "datetime"
  | d => d.kindName

/-- Whether the datum counts as true: it is neither nothing, nor false, nor zero, nor empty. -/
def truthy : Datum → Bool
  | .none => false
  | .bool b => b
  | .int i => i ≠ 0
  | .real x => !x.isZero
  | .text s => !s.isEmpty
  | .octets bs => !bs.isEmpty
  | .list items => !items.isEmpty
  | .tuple items => !items.isEmpty
  | .record entries => !entries.isEmpty
  | .moment _ => true

/-- The integer that a datum is, a truth value being 0 or 1. -/
def int? : Datum → Option Int
  | .int i => some i
  | .bool b => some (if b then 1 else 0)
  | _ => Option.none

def ofText? : Option String → Datum
  | some s => .text s
  | Option.none => .none

def ofInt? : Option Int → Datum
  | some i => .int i
  | Option.none => .none

def named (entries : List (String × Datum)) : Datum :=
  .record (entries.map fun (key, d) => (.text key, d))

/-- How a datum compares with an integer: not at all when it is no number, and in no order when it
    is not-a-number. -/
def compareInt? (d : Datum) (i : Int) : Option (Option Ordering) :=
  match d with
  | .int j => some (some (compare j i))
  | .bool b => some (some (compare (if b then 1 else 0) i))
  | .real x => some (x.compareInt? i)
  | _ => Option.none

/-- Whether two data are equal as numbers, if both are numbers. -/
def sameNumber? : Datum → Datum → Option Bool
  | .real x, .real y => some (x.compare? y = some .eq)
  | a, b => match a.int?, b.int? with
    | some i, some j => some (i = j)
    | some i, Option.none => match b with
      | .real y => some (y.compareInt? i = some .eq)
      | _ => Option.none
    | Option.none, some j => match a with
      | .real x => some (x.compareInt? j = some .eq)
      | _ => Option.none
    | Option.none, Option.none => Option.none

mutual

/-- Whether two data are equal. Numbers are equal by value, whatever their kinds; the order of a
    record's entries does not count. -/
def same : Datum → Datum → Bool
  | .none, .none => true
  | .text s, .text t => s == t
  | .octets s, .octets t => s == t
  | .list xs, .list ys => sameItems xs ys
  | .tuple xs, .tuple ys => sameItems xs ys
  | .record xs, .record ys => xs.length == ys.length && sameEntries xs ys
  | .moment a, .moment b => a.compare? b == some .eq
  | a, b => (sameNumber? a b).getD false

/-- Whether two lists are equal, item by item. -/
def sameItems : List Datum → List Datum → Bool
  | [], [] => true
  | x :: xs, y :: ys => same x y && sameItems xs ys
  | _, _ => false

/-- Whether every entry of the first list is among the second. -/
def sameEntries : List (Datum × Datum) → List (Datum × Datum) → Bool
  | [], _ => true
  | (key, d) :: rest, ys => ys.any (fun (k, e) => same key k && same d e) && sameEntries rest ys

end

/-- Seconds and microseconds of a span as named parts, days first; parts that are zero are left
    out. -/
def spanText (micros : Int) : String :=
  let days := micros / day
  let rest := micros % day
  let part (name : String) (n : Int) : List String :=
    if n = 0 then [] else [name ++ "=" ++ toString n]
  let parts := part "days" days ++ part "seconds" (rest / second)
    ++ part "microseconds" (rest % second)
  "datetime.timedelta(" ++ (if parts.isEmpty then "0" else ", ".intercalate parts) ++ ")"

/-- The shown form of a moment: the parts of its date and time, then its offset. -/
def momentText (m : Moment) : String :=
  let d := m.date
  let (hour, minute, sec, micro) := m.time
  let tail := if micro ≠ 0 then [sec, micro] else if sec ≠ 0 then [sec] else []
  let parts := ([d.year, d.month, d.day, hour, minute] ++ tail).map toString
  let zone := match m.offset with
    | Option.none => []
    | some 0 => ["tzinfo=datetime.timezone.utc"]
    | some offset => ["tzinfo=datetime.timezone(" ++ spanText offset ++ ")"]
  "datetime.datetime(" ++ ", ".intercalate (parts ++ zone) ++ ")"

mutual

/-- The shown form of a datum, unless an integer in it is too long to be written. -/
def shown? : Datum → Option String
  | .none => some "None"
  | .bool b => some (if b then "True" else "False")
  | .int i => Integer.text? i
  | .real x => some x.text
  | .text s => some (Text.quoted s)
  | .octets bs => some (Text.quotedOctets bs)
  | .list items => (shownItems? items).map fun ts => "[" ++ ", ".intercalate ts ++ "]"
  | .tuple items => (shownItems? items).map fun ts => match ts with
    | [t] => "(" ++ t ++ ",)"
    | ts => "(" ++ ", ".intercalate ts ++ ")"
  | .record entries =>
    (shownEntries? entries).map fun ts => "\x7b" ++ ", ".intercalate ts ++ "\x7d"
  | .moment m => some (momentText m)

def shownItems? : List Datum → Option (List String)
  | [] => some []
  | d :: rest => do
    let s ← shown? d
    return s :: (← shownItems? rest)

def shownEntries? : List (Datum × Datum) → Option (List String)
  | [] => some []
  | (key, d) :: rest => do
    let k ← shown? key
    let s ← shown? d
    return (k ++ ": " ++ s) :: (← shownEntries? rest)

end

/-- The plain form of a datum, unless an integer in it is too long to be written. -/
def plain? : Datum → Option String
  | .text s => some s
  | .moment m => some (m.textWith ' ')
  | d => d.shown?

mutual

/-- How many lists, tuples and records a part of the datum stands in, at most. -/
def depth : Datum → Nat
  | .list items | .tuple items => depthItems items
  | .record entries => depthEntries entries
  | _ => 0

def depthItems : List Datum → Nat
  | [] => 0
  | d :: rest => max (depth d + 1) (depthItems rest)

def depthEntries : List (Datum × Datum) → Nat
  | [] => 0
  | (key, d) :: rest => max (max (depth key) (depth d) + 1) (depthEntries rest)

end

/-- Put an entry into a record: under a key that is there already, in its place and under the key as
    it was first written; else at the end. -/
def insertEntry (key d : Datum) : List (Datum × Datum) → List (Datum × Datum)
  | [] => [(key, d)]
  | (k, e) :: rest => if same k key then (k, d) :: rest else (k, e) :: insertEntry key d rest

end Datum

end CertMint
