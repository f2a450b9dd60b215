import CertMint.Number.Integer
import CertMint.Proofs.Rendered

/-! # Integers read back

The decimal text of an integer of no more than 4300 digits is read as that integer.
-/

namespace CertMint.Integer

open Text

/-! ## Digits -/

theorem toNat_of_isDigit {c : Char} (digit : c.isDigit = true) : 48 ≤ c.toNat ∧ c.toNat ≤ 57 := by
  rw [Char.isDigit, Bool.and_eq_true, decide_eq_true_eq, decide_eq_true_eq] at digit
  exact digit

theorem digitValue?_of_isDigit {c : Char} (digit : c.isDigit = true) :
    digitValue? c = some (c.toNat - '0'.toNat) := by
  obtain ⟨low, high⟩ := toNat_of_isDigit digit
  have first : digitZeros.find? (fun z => z ≤ c.toNat && c.toNat < z + 10) = some 0x30 := by
    refine List.find?_cons_of_pos ?_
    rw [Bool.and_eq_true, decide_eq_true_eq, decide_eq_true_eq]
    omega
  rw [digitValue?, first]
  rfl

theorem isBlank_of_isDigit {c : Char} (digit : c.isDigit = true) : isBlank c = false := by
  obtain ⟨low, high⟩ := toNat_of_isDigit digit
  rw [isBlank, List.contains_eq_mem, decide_eq_false_iff_not]
  intro member
  -- the blanks are below the digits or above them
  have apart : ∀ b ∈ blanks, b < 48 ∨ 57 < b := by decide
  have := apart _ member
  omega

theorem digitRun?_of_isDigit {cs : List Char} (some_ : cs ≠ []) (digits : ∀ c ∈ cs, c.isDigit = true) :
    digitRun? cs = some (cs.map fun c => c.toNat - '0'.toNat) := by
  induction cs with
  | nil => exact absurd rfl some_
  | cons c cs ih =>
      obtain ⟨digit, others⟩ := List.forall_mem_cons.mp digits
      cases cs with
      | nil =>
          rw [digitRun?, digitValue?_of_isDigit digit]
          rfl
      | cons d rest =>
          have noUnderscore : d ≠ '_' := by
            rintro rfl
            cases others _ List.mem_cons_self
          rw [digitRun?, digitValue?_of_isDigit digit, ih (List.cons_ne_nil _ _) others]
          · rfl
          · exact List.cons_ne_nil d rest
          · intro rest' same
            exact noUnderscore (List.cons.inj same).1

theorem ofDigits_map (cs : List Char) :
    ofDigits (cs.map fun c => c.toNat - '0'.toNat) = Nat.ofDigitChars 10 cs 0 := by
  rw [ofDigits, List.foldl_map]
  generalize 0 = n
  induction cs generalizing n with
  | nil => exact Nat.ofDigitChars_nil.symm
  | cons c cs ih => rw [List.foldl_cons, Nat.ofDigitChars_cons, ih]

/-! ## Integers -/

theorem isDigit_of_mem_toDigits {n : Nat} {c : Char} (member : c ∈ Nat.toDigits 10 n) : c.isDigit = true :=
  Nat.isDigit_of_mem_toDigits (by decide) (by decide) member

theorem toList_toString (i : Int) :
    (toString i).toList = (if i < 0 then ['-'] else []) ++ Nat.toDigits 10 i.natAbs := by
  cases i with
  | ofNat n => exact Nat.toList_repr
  | negSucc n =>
      have signed : toString (Int.negSucc n) = "-" ++ Nat.repr (n + 1) := rfl
      rw [signed, String.toList_append, Nat.toList_repr, if_pos (Int.negSucc_lt_zero n)]
      rfl

/-- The characters of an integer are no blanks. -/
theorem isBlank_of_mem_toString {i : Int} {c : Char} (member : c ∈ (toString i).toList) :
    isBlank c = false := by
  rw [toList_toString] at member
  rcases List.mem_append.mp member with sign | digit
  · split at sign
    · rw [List.mem_singleton.mp sign]
      decide
    · cases sign
  · exact isBlank_of_isDigit (isDigit_of_mem_toDigits digit)

theorem takeSign_toString (i : Int) :
    takeSign (toString i).toList = (decide (i < 0), Nat.toDigits 10 i.natAbs) := by
  rw [toList_toString]
  by_cases negative : i < 0
  · rw [if_pos negative, decide_eq_true negative]
    rfl
  · rw [if_neg negative, decide_eq_false negative, List.nil_append]
    unfold takeSign
    split
    · next same => cases isDigit_of_mem_toDigits (same ▸ List.mem_cons_self)
    · next same => cases isDigit_of_mem_toDigits (same ▸ List.mem_cons_self)
    · rfl

theorem plainValue_toString (i : Int) : Ini.PlainValue (toString i) :=
  Ini.plainValue_of_solid fun _ member => isBlank_of_mem_toString member

theorem read_toString {i : Int} (short : i.natAbs < 10 ^ maxDigits) : read (toString i) = .ok i := by
  have digits := digitRun?_of_isDigit Nat.toDigits_ne_nil fun c => @isDigit_of_mem_toDigits i.natAbs c
  have count : (Nat.toDigits 10 i.natAbs).length ≤ maxDigits :=
    (Nat.length_toDigits_le_iff (by decide) (by decide)).mpr short
  rw [read, trim_eq_self_iff.mpr (plainValue_toString i).trimmed, takeSign_toString]
  dsimp only
  rw [digits]
  dsimp only
  rw [List.length_map, if_neg (Nat.not_lt.mpr count), ofDigits_map, Nat.ofDigitChars_ten_toDigits]
  congr 1
  by_cases negative : i < 0
  · rw [decide_eq_true negative, if_pos rfl]
    omega
  · rw [decide_eq_false negative, if_neg (by decide)]
    omega

end CertMint.Integer
