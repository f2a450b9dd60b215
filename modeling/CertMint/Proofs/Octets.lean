import CertMint.Octets
import Mathlib.Algebra.Ring.Nat
import Mathlib.Data.List.Induction
import Mathlib.Tactic.ByContra

/-! # Numbers through octets and back

Octets written of a number are as many as were asked for and stand for the number's remainder; octets
of a given count are determined by what they stand for. The number of octets that a number needs is
the least in which nothing of it is cut off.
-/

namespace CertMint.Octets

theorem toNat_ofNat {n : Nat} (h : n < 256) : (UInt8.ofNat n).toNat = n :=
  UInt8.toNat_ofNat_of_lt' h

/-- An octet is short of the first bit when the number written in it is. -/
theorem ofNat_lt_iff {n : Nat} (h : n < 256) : UInt8.ofNat n < 0x80 ↔ n < 128 := by
  rw [UInt8.lt_iff_toNat_lt, toNat_ofNat h]
  rfl

theorem ofNat_eq_iff {n : Nat} (h : n < 256) (b : UInt8) : UInt8.ofNat n = b ↔ n = b.toNat := by
  rw [← UInt8.toNat_inj, toNat_ofNat h]

@[simp] theorem length_bigEndian (count n : Nat) : (bigEndian count n).length = count := by
  induction count generalizing n with
  | zero => rfl
  | succ count ih => simp only [bigEndian, List.length_append, ih, List.length_singleton]

theorem ofBigEndian_concat (octets : List UInt8) (b : UInt8) :
    ofBigEndian (octets ++ [b]) = 256 * ofBigEndian octets + b.toNat := by
  simp only [ofBigEndian, List.foldl_append, List.foldl_cons, List.foldl_nil]

theorem ofBigEndian_lt (octets : List UInt8) : ofBigEndian octets < 256 ^ octets.length := by
  induction octets using List.reverseRecOn with
  | nil => exact Nat.one_pos
  | append_singleton octets b ih =>
      have small := b.toNat_lt
      rw [ofBigEndian_concat, List.length_append, List.length_singleton, Nat.pow_succ]
      omega

theorem ofBigEndian_bigEndian (count n : Nat) : ofBigEndian (bigEndian count n) = n % 256 ^ count := by
  induction count generalizing n with
  | zero => simp only [bigEndian, ofBigEndian, List.foldl_nil, Nat.pow_zero, Nat.mod_one]
  | succ count ih =>
      rw [bigEndian, ofBigEndian_concat, ih, Nat.pow_succ, Nat.mul_comm (256 ^ count),
        Nat.mod_mul, UInt8.toNat_ofNat']
      omega

/-- Octets are what is written of the number that they stand for, in as many octets. -/
theorem bigEndian_ofBigEndian (octets : List UInt8) :
    bigEndian octets.length (ofBigEndian octets) = octets := by
  induction octets using List.reverseRecOn with
  | nil => rfl
  | append_singleton octets b ih =>
      have small := b.toNat_lt
      have above : (256 * ofBigEndian octets + b.toNat) / 256 = ofBigEndian octets := by omega
      have below : (256 * ofBigEndian octets + b.toNat) % 256 = b.toNat := by omega
      rw [ofBigEndian_concat, List.length_append, List.length_singleton, bigEndian, above, below, ih,
        UInt8.ofNat_toNat]

/-- The first of some octets is what is left of the number above the others. -/
theorem bigEndian_succ (count n : Nat) :
    bigEndian (count + 1) n = UInt8.ofNat (n / 256 ^ count) :: bigEndian count n := by
  induction count generalizing n with
  | zero =>
      simp only [bigEndian, List.nil_append, Nat.pow_zero, Nat.div_one]
      exact congrArg (fun b => [b]) (UInt8.toNat_inj.mp (by simp))
  | succ count ih =>
      rw [bigEndian, ih, Nat.div_div_eq_div_mul, ← Nat.pow_succ', List.cons_append]
      exact congrArg (List.cons _) (bigEndian.eq_2 n count).symm

/-! ## How much room a number needs -/

theorem lt_two_pow_bitLength (n : Nat) : n < 2 ^ bitLength n := by
  unfold bitLength
  split
  · omega
  · exact Nat.lt_log2_self

theorem two_pow_le_of_bitLength {n bits : Nat} (h : bitLength n = bits + 1) : 2 ^ bits ≤ n := by
  unfold bitLength at h
  split at h
  · omega
  · next nonzero =>
      obtain rfl : n.log2 = bits := by omega
      exact Nat.log2_self_le nonzero

theorem bitLength_le_of_lt {n bits : Nat} (h : n < 2 ^ bits) : bitLength n ≤ bits := by
  by_contra above
  obtain ⟨more, eq⟩ : ∃ more, bitLength n = (bits + more) + 1 := ⟨bitLength n - bits - 1, by omega⟩
  have low := two_pow_le_of_bitLength eq
  have grows : 2 ^ bits ≤ 2 ^ (bits + more) := Nat.pow_le_pow_right Nat.two_pos (by omega)
  omega

theorem lt_pow_byteLength (n : Nat) : n < 256 ^ byteLength n := by
  have wide : 2 ^ bitLength n ≤ 2 ^ (8 * byteLength n) :=
    Nat.pow_le_pow_right Nat.two_pos (by unfold byteLength; omega)
  rw [Nat.pow_mul] at wide
  exact Nat.lt_of_lt_of_le (lt_two_pow_bitLength n) wide

theorem pow_le_of_byteLength {n count : Nat} (h : byteLength n = count + 1) : 256 ^ count ≤ n := by
  unfold byteLength at h
  obtain ⟨bits, eq⟩ : ∃ bits, bitLength n = bits + 1 := ⟨bitLength n - 1, by omega⟩
  have wide : 2 ^ (8 * count) ≤ 2 ^ bits := Nat.pow_le_pow_right Nat.two_pos (by omega)
  rw [Nat.pow_mul] at wide
  exact Nat.le_trans wide (two_pow_le_of_bitLength eq)

/-- A number written in as many octets as it needs is read back whole. -/
theorem ofBigEndian_byteLength (n : Nat) : ofBigEndian (bigEndian (byteLength n) n) = n := by
  rw [ofBigEndian_bigEndian, Nat.mod_eq_of_lt (lt_pow_byteLength n)]

end CertMint.Octets
