import CertMint.Number.Binary64
import CertMint.Text.Blank

/-! # Reading decimal numbers

A decimal text, with or without a fraction and an exponent, as the nearest binary64 number. The words
for infinity and for not-a-number are read as well.
-/

namespace CertMint.Binary64

/-- The number that ASCII digits stand for, continuing from `n`. -/
def asciiNumber (n : Nat) (ds : List Char) : Nat :=
  ds.foldl (fun n c => 10 * n + (c.toNat - 48)) n

/-- An exponent: `e` or `E`, a sign or none, and digits. -/
def readExponent? : List Char → Option Int
  | [] => some 0
  | c :: rest =>
    if c = 'e' ∨ c = 'E' then
      let (negative, ds) := match rest with
        | '-' :: ds => (true, ds)
        | '+' :: ds => (false, ds)
        | ds => (false, ds)
      if ds.isEmpty || !ds.all Char.isDigit then none
      else some (if negative then -(asciiNumber 0 ds : Int) else asciiNumber 0 ds)
    else none

def readUnsigned? (negative : Bool) (cs : List Char) : Option Binary64 := do
  let whole := cs.takeWhile Char.isDigit
  let rest := cs.dropWhile Char.isDigit
  let (fraction, rest) := match rest with
    | '.' :: after => (after.takeWhile Char.isDigit, after.dropWhile Char.isDigit)
    | after => ([], after)
  if whole.isEmpty && fraction.isEmpty then none
  let exponent ← readExponent? rest
  return ofDecimal negative (asciiNumber (asciiNumber 0 whole) fraction)
    (exponent - fraction.length)

def read? (s : String) : Option Binary64 :=
  let (negative, cs) := match (Text.trim s).toList with
    | '-' :: cs => (true, cs)
    | '+' :: cs => (false, cs)
    | cs => (false, cs)
  let word := String.ofList (cs.map Char.toLower)
  if word = "inf" ∨ word = "infinity" then some (infinity negative)
  else if word = "nan" then some nan
  else readUnsigned? negative cs

end CertMint.Binary64
