import CertMint.Der.Writer

/-! # DER read

Values of the distinguished encoding. Reading is strict: lengths and integers in more octets than they
need, truth values of other octets than 0 and 255, and octets left over are refused.
-/

namespace CertMint.Der

open Octets

/-- A value that was read. -/
structure Element where
  tag : UInt8
  content : List UInt8
  /-- Tag, length and content. -/
  raw : List UInt8
  deriving DecidableEq, Repr

/-- Read how many octets of a length follow; `before` of them have been announced already. -/
def takeCount (before : Nat) : List UInt8 → Option (Nat × List UInt8)
  | [] => none
  | b :: rest =>
    if b = 0xff then takeCount (before + 127) rest
    else if b < 0x80 then none
    else some (before + (b.toNat - 128), rest)

def takeLength : List UInt8 → Option (Nat × List UInt8)
  | [] => none
  | b :: rest =>
    if b < 0x80 then some (b.toNat, rest)
    else do
      let (count, rest) ← takeCount 0 (b :: rest)
      let digits := rest.take count
      if count = 0 ∨ digits.length < count ∨ digits.head? = some 0 then none
      else
        let n := ofBigEndian digits
        if n < 128 then none else some (n, rest.drop count)

/-- Read one value at the start of octets. -/
def take : List UInt8 → Option (Element × List UInt8)
  | [] => none
  | tag :: rest =>
    if tag &&& 0x1f = 0x1f then none
    else match takeLength rest with
      | none => none
      | some (n, body) =>
        if body.length < n then none
        else
          let whole := (rest.length - body.length) + n + 1
          some (⟨tag, body.take n, (tag :: rest).take whole⟩, body.drop n)

def takeAll : Nat → List UInt8 → Option (List Element)
  | _, [] => some []
  | 0, _ => none
  | fuel + 1, octets => do
    let (e, rest) ← take octets
    return e :: (← takeAll fuel rest)

def elements? (octets : List UInt8) : Option (List Element) := takeAll octets.length octets

def single? (octets : List UInt8) : Option Element := do
  let (e, rest) ← take octets
  if rest.isEmpty then some e else none

namespace Element

/-- The content, if the tag is as expected. -/
def tagged? (e : Element) (tag : UInt8) : Option (List UInt8) :=
  if e.tag = tag then some e.content else none

def sequence? (e : Element) : Option (List Element) := do elements? (← e.tagged? 0x30)

def integer? (e : Element) : Option Int := do
  let content ← e.tagged? 0x02
  match content with
  | [] => none
  | [b] => some (if b < 0x80 then (b.toNat : Int) else (b.toNat : Int) - 256)
  | a :: b :: rest =>
    if (a = 0 ∧ b < 0x80) ∨ (a = 0xff ∧ 0x80 ≤ b) then none
    else
      let n := ofBigEndian (a :: b :: rest)
      some (if a < 0x80 then (n : Int) else (n : Int) - Nat.pow 256 content.length)

def natural? (e : Element) : Option Nat := do
  let i ← e.integer?
  if 0 ≤ i then some i.toNat else none

def boolean? (e : Element) : Option Bool := do
  match ← e.tagged? 0x01 with
  | [0x00] => some false
  | [0xff] => some true
  | _ => none

def bits? (e : Element) : Option (List UInt8) := do
  match ← e.tagged? 0x03 with
  | 0 :: octets => some octets
  | _ => none

/-- Whether the value is bits, of any number. -/
def isBits (e : Element) : Bool :=
  match e.tag, e.content with
  | 0x03, [0] => true
  | 0x03, unused :: rest =>
    unused < 8 && (match rest.getLast? with
      | some last => last.toNat % Nat.pow 2 unused.toNat = 0
      | none => false)
  | _, _ => false

def octets? (e : Element) : Option (List UInt8) := e.tagged? 0x04

def isNull (e : Element) : Bool := e.tag = 0x05 && e.content.isEmpty

end Element

/-- Read arcs; `open_` is what the octets of an unfinished arc amount to. -/
def takeArcs (open_ : Option Nat) : List UInt8 → Option (List Nat)
  | [] => if open_.isNone then some [] else none
  | b :: rest =>
    if open_ = none ∧ b = 0x80 then none
    else
      let n := open_.getD 0 * 128 + b.toNat % 128
      if b < 0x80 then (takeArcs none rest).map (n :: ·) else takeArcs (some n) rest

def Element.oid? (e : Element) : Option Oid := do
  match ← takeArcs none (← e.tagged? 0x06) with
  | [] => none
  | first :: rest =>
    let a := min (first / 40) 2
    some (a :: (first - 40 * a) :: rest)

/-- The dotted text of an object identifier. -/
def oidText (o : Oid) : String := ".".intercalate (o.map toString)

end CertMint.Der
