import CertMint.Number.Decimal
import CertMint.Datum

/-! # JSON read

A JSON text as a datum. The entries of an object keep their order, a key that comes again replaces
what it stood for, numbers without fraction and exponent are integers of any size, and the words for
infinities and not-a-number are accepted.
-/

namespace CertMint.Json

def isGap (c : Char) : Bool := c = ' ' || c = '\n' || c = '\r' || c = '\t'

def skipGaps (cs : List Char) : List Char := cs.dropWhile isGap

def takeUnit : List Char → Option (Nat × List Char)
  | a :: b :: c :: d :: rest => do
    let a ← Text.hexValue? a
    let b ← Text.hexValue? b
    let c ← Text.hexValue? c
    let d ← Text.hexValue? d
    return (((a * 16 + b) * 16 + c) * 16 + d, rest)
  | _ => none

/-- Read the UTF-16 units after the letter of a numeric escape as one character. -/
def takeEscape (cs : List Char) : Option (Char × List Char) := do
  let (high, rest) ← takeUnit cs
  if 0xd800 ≤ high ∧ high < 0xdc00 then
    match rest with
    | '\\' :: 'u' :: more =>
      let (low, after) ← takeUnit more
      if 0xdc00 ≤ low ∧ low < 0xe000 then
        return (Char.ofNat (0x10000 + (high - 0xd800) * 1024 + (low - 0xdc00)), after)
      else none
    | _ => none
  else return (Char.ofNat high, rest)

/-- The character that a one-letter escape stands for. -/
def letterEscape? : Char → Option Char
  | 'n' => some '\n'
  | 'r' => some '\r'
  | 't' => some '\t'
  | 'b' => some '\x08'
  | 'f' => some '\x0c'
  | '\x22' => some '\x22'
  | '\\' => some '\\'
  | '/' => some '/'
  | _ => none

/-- Read a text after its opening quote; `done` has what was read, newest character first. -/
def takeText : Nat → List Char → List Char → Option (String × List Char)
  | 0, _, _ => none
  | fuel + 1, done, cs =>
    match cs with
    | [] => none
    | '\x22' :: rest => some (String.ofList done.reverse, rest)
    | '\\' :: 'u' :: rest =>
      match takeEscape rest with
      | none => none
      | some (c, rest) => takeText fuel (c :: done) rest
    | '\\' :: letter :: rest =>
      match letterEscape? letter with
      | none => none
      | some c => takeText fuel (c :: done) rest
    | c :: rest => if c.toNat < 32 then none else takeText fuel (c :: done) rest

/-- Whether a character can be part of a number. -/
def isNumberChar (c : Char) : Bool :=
  c.isDigit || c = '-' || c = '+' || c = '.' || c = 'e' || c = 'E'

/-- The number that a run of characters is. -/
def numberOf? (cs : List Char) : Option Datum :=
  let digits := match cs with
    | '-' :: ds => ds
    | ds => ds
  if digits.isEmpty then none
  else if digits.all Char.isDigit then
    let n := Binary64.asciiNumber 0 digits
    some (.int (if digits.length < cs.length then -(n : Int) else n))
  else (Binary64.readUnsigned? (digits.length < cs.length) digits).map .real

/-- Read a word that stands for a datum, or a number. -/
def takeWord (cs : List Char) : Option (Datum × List Char) :=
  match cs with
  | 'n' :: 'u' :: 'l' :: 'l' :: rest => some (.none, rest)
  | 't' :: 'r' :: 'u' :: 'e' :: rest => some (.bool true, rest)
  | 'f' :: 'a' :: 'l' :: 's' :: 'e' :: rest => some (.bool false, rest)
  | 'N' :: 'a' :: 'N' :: rest => some (.real .nan, rest)
  | 'I' :: 'n' :: 'f' :: 'i' :: 'n' :: 'i' :: 't' :: 'y' :: rest =>
    some (.real (.infinity false), rest)
  | '-' :: 'I' :: 'n' :: 'f' :: 'i' :: 'n' :: 'i' :: 't' :: 'y' :: rest =>
    some (.real (.infinity true), rest)
  | cs => do
    let d ← numberOf? (cs.takeWhile isNumberChar)
    return (d, cs.dropWhile isNumberChar)

mutual

/-- Read a datum at the start of a text. -/
def takeDatum : Nat → List Char → Option (Datum × List Char)
  | 0, _ => none
  | fuel + 1, cs =>
    match skipGaps cs with
    | '\x22' :: rest => (takeText (rest.length + 1) [] rest).map fun (s, rest) => (.text s, rest)
    | '[' :: rest =>
      match skipGaps rest with
      | ']' :: rest => some (.list [], rest)
      | rest => (takeItems fuel rest).map fun (items, rest) => (.list items, rest)
    | '\x7b' :: rest =>
      match skipGaps rest with
      | '\x7d' :: rest => some (.record [], rest)
      | rest => (takeEntries fuel [] rest).map fun (entries, rest) => (.record entries, rest)
    | rest => takeWord rest

/-- Read the items of a list, up to its closing bracket. -/
def takeItems : Nat → List Char → Option (List Datum × List Char)
  | 0, _ => none
  | fuel + 1, cs => do
    let (d, rest) ← takeDatum fuel cs
    match skipGaps rest with
    | ',' :: rest =>
      let (items, rest) ← takeItems fuel rest
      return (d :: items, rest)
    | ']' :: rest => return ([d], rest)
    | _ => none

/-- Read the entries of an object, up to its closing brace. -/
def takeEntries : Nat → List (Datum × Datum) → List Char →
    Option (List (Datum × Datum) × List Char)
  | 0, _, _ => none
  | fuel + 1, done, cs =>
    match skipGaps cs with
    | '\x22' :: rest => do
      let (key, rest) ← takeText (rest.length + 1) [] rest
      let ':' :: rest := skipGaps rest | none
      let (d, rest) ← takeDatum fuel rest
      let done := Datum.insertEntry (.text key) d done
      match skipGaps rest with
      | ',' :: rest => takeEntries fuel done rest
      | '\x7d' :: rest => return (done, rest)
      | _ => none
    | _ => none

end

def read? (s : String) : Option Datum := do
  let cs := s.toList
  let (d, rest) ← takeDatum (cs.length + 1) cs
  if (skipGaps rest).isEmpty then some d else none

end CertMint.Json
