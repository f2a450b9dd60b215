import CertMint.Number.Binary64

/-! # Shortest decimal texts

The fewest decimal digits that read back as a given binary64 number, nearest to it among those of
that length, and the written form of a number: positional for exponents from -5 to 15, scientific
otherwise.
-/

namespace CertMint.Binary64

/-- The decimal digits of `digits` without trailing zeros, and the exponent raised accordingly. -/
def stripZeros : Nat → Nat → Int → Nat × Int
  | 0, digits, exponent => (digits, exponent)
  | fuel + 1, digits, exponent =>
    if digits ≠ 0 ∧ digits % 10 = 0 then stripZeros fuel (digits / 10) (exponent + 1)
    else (digits, exponent)

/-- `m · 2^q / 10^e` as a ratio of natural numbers. -/
def overTen (m : Nat) (q e : Int) : Nat × Nat :=
  let num := m * Nat.pow 2 q.toNat * Nat.pow 10 (-e).toNat
  let den := Nat.pow 2 (-q).toNat * Nat.pow 10 e.toNat
  (num, den)

/-- The number of decimal digits of a positive natural number. -/
def decimalLength (n : Nat) : Nat := (Nat.toDigits 10 n).length

/-- The exponent `e` with `10^e ≤ m · 2^q < 10^(e+1)`, for positive `m`. -/
def decimalExponent (m : Nat) (q : Int) : Int :=
  let (num, den) := overTen m q 0
  let guess : Int := (decimalLength num : Int) - decimalLength den
  let (n, d) := overTen m q guess
  if n < d then guess - 1 else guess

/-- The candidates with the least digit at `10^e`: the value's two neighbours on that grid that
    read back, the nearer first. -/
def candidateAt? (m : Nat) (q : Int) (e : Int) : Option (Nat × Int) :=
  let (num, den) := overTen m q e
  let low := num / den
  let target := ofDyadic m q
  let fits (c : Nat) : Bool := c ≠ 0 && ofDecimal false c e == target
  let lowFirst := roundHalfEven num den = low
  let first := if lowFirst then low else low + 1
  let second := if lowFirst then low + 1 else low
  if fits first then some (first, e) else if fits second then some (second, e) else none

def shortestFrom (m : Nat) (q : Int) (e : Int) : Nat → Nat × Int
  | 0 => (overTen m q e).1 / (overTen m q e).2 |> (·, e)
  | fuel + 1 => match candidateAt? m q e with
    | some found => found
    | none => shortestFrom m q (e - 1) fuel

/-- The shortest decimal digits of `m · 2^q` for positive `m`, and their exponent. -/
def shortestDigits (m : Nat) (q : Int) : Nat × Int :=
  let (digits, e) := shortestFrom m q (decimalExponent m q + 1) 19
  stripZeros 20 digits e

def zeros (n : Nat) : List Char := List.replicate n '0'

/-- An exponent with its sign and at least two digits. -/
def exponentText (e : Int) : String :=
  let digits := toString e.natAbs
  (if e < 0 then "-" else "+") ++ (if digits.length < 2 then "0" ++ digits else digits)

/-- Positional or scientific text of `digits · 10^exponent`. -/
def decimalText (digits : Nat) (exponent : Int) : String :=
  let ds := Nat.toDigits 10 digits
  let point : Int := ds.length + exponent
  if -4 < point ∧ point ≤ 16 then
    if point ≤ 0 then String.ofList ('0' :: '.' :: zeros (-point).toNat ++ ds)
    else if (ds.length : Int) ≤ point then
      String.ofList (ds ++ zeros (point - ds.length).toNat ++ ['.', '0'])
    else String.ofList (ds.take point.toNat ++ '.' :: ds.drop point.toNat)
  else
    let mantissa := match ds with
      | [] => []
      | [d] => [d]
      | d :: rest => d :: '.' :: rest
    String.ofList mantissa ++ "e" ++ exponentText (point - 1)

/-- The written form of a number: `1.5`, `1e-07`, `-0.0`, `inf`, `nan`. -/
def text (x : Binary64) : String :=
  match x.meaning with
  | .nan => "nan"
  | .infinite s => if s then "-inf" else "inf"
  | .finite s m q =>
    let body := if m = 0 then "0.0" else
      let (digits, e) := shortestDigits m q
      decimalText digits e
    if s then "-" ++ body else body

end CertMint.Binary64
