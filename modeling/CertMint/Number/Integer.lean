import CertMint.Text.Blank

/-! # Integers as text

Decimal integers in both directions. A text may carry blanks around it, a sign, single underscores
between digits and the digits of any script. Neither direction handles more than 4300 digits.
-/

namespace CertMint.Integer

/-- The most decimal digits that are read or written. -/
def maxDigits : Nat := 4300

/-- Why a text is not an integer. -/
inductive ReadError where
  /-- The text does not have the form of an integer. -/
  | malformed
  /-- The text has `count` digits, more than `maxDigits`. -/
  | tooLong (count : Nat)
  deriving DecidableEq, Repr

/-- The digits of a run in which single underscores may stand between digits. -/
def digitRun? : List Char → Option (List Nat)
  | [] => none
  | [c] => (Text.digitValue? c).map ([·])
  | c :: '_' :: rest => do return (← Text.digitValue? c) :: (← digitRun? rest)
  | c :: rest => do return (← Text.digitValue? c) :: (← digitRun? rest)

/-- The number with the given decimal digits, most significant first. -/
def ofDigits (ds : List Nat) : Nat := ds.foldl (fun n d => 10 * n + d) 0

def takeSign : List Char → Bool × List Char
  | '-' :: rest => (true, rest)
  | '+' :: rest => (false, rest)
  | cs => (false, cs)

def read (s : String) : Except ReadError Int :=
  let (negative, body) := takeSign (Text.trim s).toList
  match digitRun? body with
  | none => .error .malformed
  | some ds =>
    if maxDigits < ds.length then .error (.tooLong ds.length)
    else .ok (if negative then -(ofDigits ds : Int) else ofDigits ds)

/-- The decimal text of an integer, unless it is too long to be written. -/
def text? (i : Int) : Option String :=
  if i.natAbs < Nat.pow 10 maxDigits then some (toString i) else none

/-- An integer that can be written. -/
def Short : Type := { i : Int // i.natAbs < Nat.pow 10 maxDigits }

theorem word_lt_pow_maxDigits (w : UInt64) : (w.toNat : Int).natAbs < Nat.pow 10 maxDigits := by
  have below (digits : Nat) (more : 20 ≤ digits) : w.toNat < Nat.pow 10 digits :=
    calc w.toNat
      _ < 2 ^ 64 := w.toNat_lt
      _ ≤ 10 ^ 20 := by decide
      _ ≤ 10 ^ digits := Nat.pow_le_pow_right (by decide) more
  rw [Int.natAbs_natCast]
  exact below maxDigits (by decide)

/-- A number of up to 64 bits. -/
def Short.ofWord (w : UInt64) : Short := ⟨w.toNat, word_lt_pow_maxDigits w⟩

end CertMint.Integer
