/-! # Binary64 numbers

Floating-point numbers as their 64 bits. A finite number is `m · 2^q`, and every operation is an
exact operation on such numbers followed by one rounding to the nearest, ties to even, so nothing
here depends on the machine's floating-point unit.
-/

namespace CertMint

/-- `num / den` rounded to the nearest integer, a half going to the even neighbour. -/
def roundHalfEven (num den : Nat) : Nat :=
  let whole := num / den
  let rest := 2 * (num % den)
  if rest < den then whole
  else if den < rest then whole + 1
  else if whole % 2 = 0 then whole else whole + 1

/-- A number of the binary64 format, held as its 64 bits. -/
structure Binary64 where
  /-- Sign, exponent and fraction, from the highest bit down. -/
  bits : UInt64
  deriving DecidableEq, Repr, Inhabited

namespace Binary64

/-- What the bits stand for. -/
inductive Meaning where
  | nan
  /-- An infinity; `negative` is its sign. -/
  | infinite (negative : Bool)
  /-- The number `m · 2^q`, with its sign kept apart because zero has one. -/
  | finite (negative : Bool) (m : Nat) (q : Int)
  deriving DecidableEq, Repr

def meaning (x : Binary64) : Meaning :=
  let n := x.bits.toNat
  let negative := n / Nat.pow 2 63 % 2 = 1
  let exponent : Nat := n / Nat.pow 2 52 % 2048
  let fraction := n % Nat.pow 2 52
  if exponent = 2047 then
    if fraction = 0 then .infinite negative else .nan
  else if exponent = 0 then .finite negative fraction (-1074)
  else .finite negative (fraction + Nat.pow 2 52) ((exponent : Int) - 1075)

def assemble (negative : Bool) (exponent fraction : Nat) : Binary64 :=
  ⟨UInt64.ofNat ((if negative then Nat.pow 2 63 else 0) + exponent * Nat.pow 2 52 + fraction)⟩

/-- The quiet not-a-number. -/
def nan : Binary64 := assemble false 2047 (Nat.pow 2 51)

def infinity (negative : Bool) : Binary64 := assemble negative 2047 0

def zero (negative : Bool) : Binary64 := assemble negative 0 0

/-- `n · 2^q` as a number, where `n` has at most 53 bits after rounding. -/
def pack (negative : Bool) (n : Nat) (q : Int) : Binary64 :=
  let (n, q) := if n = Nat.pow 2 53 then (Nat.pow 2 52, q + 1) else (n, q)
  if n < Nat.pow 2 52 then assemble negative 0 n
  else if 971 < q then infinity negative
  else assemble negative (q + 1075).toNat (n - Nat.pow 2 52)

/-- The number nearest to `num / den`; a tie goes to the even significand. -/
def ofRatio (negative : Bool) (num den : Nat) : Binary64 :=
  if num = 0 then zero negative
  else
    let scaled (q : Int) : Nat × Nat :=
      if 0 ≤ q then (num, den * Nat.pow 2 q.toNat) else (num * Nat.pow 2 (-q).toNat, den)
    let guess : Int := (Nat.log2 num : Int) - Nat.log2 den - 52
    let q := if (scaled guess).1 < (scaled guess).2 * Nat.pow 2 52 then guess - 1 else guess
    let q := max q (-1074)
    pack negative (roundHalfEven (scaled q).1 (scaled q).2) q

/-- The number nearest to `m · 2^q`. -/
def ofDyadic (m : Int) (q : Int) : Binary64 :=
  if 0 ≤ q then ofRatio (m < 0) (m.natAbs * Nat.pow 2 q.toNat) 1
  else ofRatio (m < 0) m.natAbs (Nat.pow 2 (-q).toNat)

/-- The number nearest to an integer. -/
def ofInt (i : Int) : Binary64 := ofDyadic i 0

/-- The number nearest to `digits · 10^exponent`. Exponents far outside the format's range are
    cut, which changes no result. -/
def ofDecimal (negative : Bool) (digits : Nat) (exponent : Int) : Binary64 :=
  if digits = 0 then zero negative
  else if 400 < exponent then infinity negative
  else if exponent < -(400 + (Nat.log2 digits : Int)) then zero negative
  else if 0 ≤ exponent then ofRatio negative (digits * Nat.pow 10 exponent.toNat) 1
  else ofRatio negative digits (Nat.pow 10 (-exponent).toNat)

def signed (negative : Bool) (m : Nat) : Int := if negative then -(m : Int) else m

/-- The exact sum of `a · 2^p` and `b · 2^q`, as a significand over the smaller exponent. -/
def addDyadic (a p b q : Int) : Int × Int :=
  let low := min p q
  (a * Nat.pow 2 (p - low).toNat + b * Nat.pow 2 (q - low).toNat, low)

def neg (x : Binary64) : Binary64 :=
  match x.meaning with
  | .nan => nan
  | .infinite s => infinity (!s)
  | .finite s m q => if m = 0 then zero (!s) else ofDyadic (-signed s m) q

/-- Sum, rounded once. -/
def add (x y : Binary64) : Binary64 :=
  match x.meaning, y.meaning with
  | .nan, _ | _, .nan => nan
  | .infinite s, .infinite t => if s = t then infinity s else nan
  | .infinite s, _ => infinity s
  | _, .infinite t => infinity t
  | .finite s a p, .finite t b q =>
    let (m, low) := addDyadic (signed s a) p (signed t b) q
    if m = 0 then zero (s && t && a = 0 && b = 0) else ofDyadic m low

/-- Difference, rounded once. -/
def sub (x y : Binary64) : Binary64 := add x y.neg

/-- Product, rounded once. -/
def mul (x y : Binary64) : Binary64 :=
  match x.meaning, y.meaning with
  | .nan, _ | _, .nan => nan
  | .infinite s, .infinite t => infinity (s != t)
  | .infinite s, .finite t b _ => if b = 0 then nan else infinity (s != t)
  | .finite s a _, .infinite t => if a = 0 then nan else infinity (s != t)
  | .finite s a p, .finite t b q =>
    if a = 0 ∨ b = 0 then zero (s != t)
    else ofDyadic (signed (s != t) (a * b)) (p + q)

/-- How a number compares with another; nothing compares with a not-a-number. -/
def compare? (x y : Binary64) : Option Ordering :=
  match x.meaning, y.meaning with
  | .nan, _ | _, .nan => none
  | .infinite s, .infinite t => some (if s = t then .eq else if s then .lt else .gt)
  | .infinite s, _ => some (if s then .lt else .gt)
  | _, .infinite t => some (if t then .gt else .lt)
  | .finite s a p, .finite t b q =>
    let low := min p q
    some (compare (signed s a * Nat.pow 2 (p - low).toNat) (signed t b * Nat.pow 2 (q - low).toNat))

/-- How a number compares with an integer, exactly. -/
def compareInt? (x : Binary64) (i : Int) : Option Ordering :=
  match x.meaning with
  | .nan => none
  | .infinite s => some (if s then .lt else .gt)
  | .finite s m q =>
    if 0 ≤ q then some (compare (signed s m * Nat.pow 2 q.toNat) i)
    else some (compare (signed s m) (i * Nat.pow 2 (-q).toNat))

/-- The integer part, toward zero, of a finite number. -/
def truncate? (x : Binary64) : Option Int :=
  match x.meaning with
  | .finite s m q =>
    some (signed s (if 0 ≤ q then m * Nat.pow 2 q.toNat else m / Nat.pow 2 (-q).toNat))
  | _ => none

/-- The integer nearest to a finite number, a half going to the even neighbour. -/
def round? (x : Binary64) : Option Int :=
  match x.meaning with
  | .finite s m q =>
    some (signed s (if 0 ≤ q then m * Nat.pow 2 q.toNat else roundHalfEven m (Nat.pow 2 (-q).toNat)))
  | _ => none

/-- Whether the number is a zero of either sign. -/
def isZero (x : Binary64) : Bool :=
  match x.meaning with
  | .finite _ m _ => m = 0
  | _ => false

end Binary64

end CertMint
