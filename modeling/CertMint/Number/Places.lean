import CertMint.Number.Shortest

/-! # Decimal texts with a chosen precision

A binary64 number rounded, half to even, to a number of places after the point or to a number of
significant digits, and written positionally, scientifically, or in whichever of the two is shorter.
-/

namespace CertMint.Binary64

/-- How a number is written. -/
inductive Style where
  /-- Positional, with a number of places after the point. -/
  | fixed
  /-- Scientific, with a number of places after the point. -/
  | scientific
  /-- The shorter of the two, with a number of significant digits. -/
  | general
  deriving DecidableEq, Repr

/-- Exactly `width` digits of `n`, whose decimal text is not longer. -/
def digitsPadded (width n : Nat) : List Char :=
  let ds := Nat.toDigits 10 n
  zeros (width - ds.length) ++ ds

/-- `count` significant digits of `m · 2^q`, as a number, and the exponent of the first digit. -/
def significant (count m : Nat) (q : Int) : Nat × Int :=
  if m = 0 then (0, 0)
  else
    let first := decimalExponent m q
    let (num, den) := overTen m q (first - (count - 1 : Nat))
    let n := roundHalfEven num den
    if n = Nat.pow 10 count then (Nat.pow 10 (count - 1), first + 1) else (n, first)

/-- A point and the digits after it; a point alone only where `keepPoint` asks for it. -/
def fraction (keepPoint : Bool) (ds : List Char) : List Char :=
  if ds.isEmpty && !keepPoint then [] else '.' :: ds

/-- Positional digits of `m · 2^q` with `places` after the point. -/
def fixedText (places : Nat) (keepPoint : Bool) (m : Nat) (q : Int) : List Char :=
  let (num, den) := overTen m q (-(places : Int))
  let ds := digitsPadded (places + 1) (roundHalfEven num den)
  ds.take (ds.length - places) ++ fraction keepPoint (ds.drop (ds.length - places))

def scientificText (keepPoint : Bool) (ds : List Char) (exponent : Int) : List Char :=
  ds.take 1 ++ fraction keepPoint (ds.drop 1) ++ 'e' :: (exponentText exponent).toList

def dropLastZeros (ds : List Char) : List Char :=
  (ds.reverse.dropWhile (· = '0')).reverse

/-- The shorter text with `count` significant digits; zeros at the end stay where `keepPoint` asks
    for it. -/
def generalText (count : Nat) (keepPoint : Bool) (m : Nat) (q : Int) : List Char :=
  let (n, exponent) := significant count m q
  let ds := digitsPadded count n
  let ds := if keepPoint then ds else match dropLastZeros ds with
    | [] => ['0']
    | ds => ds
  if exponent < -4 ∨ (count : Int) ≤ exponent then scientificText keepPoint ds exponent
  else if exponent < 0 then
    '0' :: fraction keepPoint (zeros (-exponent - 1).toNat ++ ds)
  else
    let whole := exponent.toNat + 1
    ds.take whole ++ zeros (whole - ds.length) ++ fraction keepPoint (ds.drop whole)

/-- The text of a number in a style with a precision. -/
def styled (style : Style) (precision : Nat) (keepPoint : Bool) (x : Binary64) : String :=
  match x.meaning with
  | .nan => "nan"
  | .infinite s => if s then "-inf" else "inf"
  | .finite s m q =>
    let body := match style with
      | .fixed => fixedText precision keepPoint m q
      | .scientific =>
        let (n, exponent) := significant (precision + 1) m q
        scientificText keepPoint (digitsPadded (precision + 1) n) exponent
      | .general => generalText (max 1 precision) keepPoint m q
    String.ofList (if s then '-' :: body else body)

end CertMint.Binary64
