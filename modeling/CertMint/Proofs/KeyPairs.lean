import CertMint.Proofs.Rsa
import Mathlib.FieldTheory.Finite.Basic
import Mathlib.NumberTheory.LucasLehmer

/-! # Consistent key pairs

A key pair made in the usual way from two primes is consistent. One such key pair, of 1128 bits, is
given: its primes are those below the powers 521 and 607 of two.
-/

namespace CertMint.Rsa

/-- Multiples of `p - 1` do not count in an exponent modulo a prime `p`. -/
theorem pow_modEq_of_prime {p : Nat} (prime : p.Prime) (k x : Nat) :
    x ^ ((p - 1) * k + 1) ≡ x [MOD p] := by
  by_cases divides : p ∣ x
  · have zero : x ≡ 0 [MOD p] := (Nat.modEq_zero_iff_dvd).mpr divides
    have power := zero.pow ((p - 1) * k + 1)
    rw [Nat.zero_pow (Nat.succ_pos _)] at power
    exact power.trans zero.symm
  · have coprime : Nat.Coprime x p := (Nat.coprime_comm.mp ((prime.coprime_iff_not_dvd).mpr divides))
    have cycle : x ^ (p - 1) ≡ 1 [MOD p] := by
      rw [← Nat.totient_prime prime]
      exact Nat.ModEq.pow_totient coprime
    calc x ^ ((p - 1) * k + 1) = (x ^ (p - 1)) ^ k * x := by rw [Nat.pow_succ, Nat.pow_mul]
      _ ≡ 1 ^ k * x [MOD p] := (cycle.pow k).mul_right x
      _ = x := by rw [Nat.one_pow, Nat.one_mul]

/-- Key pairs are consistent when the exponents are inverse to each other modulo `(p - 1) * (q - 1)`. -/
theorem consistent_of_primes {p q : Nat} (first : p.Prime) (second : q.Prime) (distinct : p ≠ q)
    {exponent secret k : Nat} (inverse : secret * exponent = (p - 1) * (q - 1) * k + 1) :
    KeyPair.Consistent ⟨p * q, exponent, secret⟩ := by
  intro x small
  have modFirst : x ^ (secret * exponent) ≡ x [MOD p] := by
    rw [inverse, Nat.mul_assoc]
    exact pow_modEq_of_prime first _ x
  have modSecond : x ^ (secret * exponent) ≡ x [MOD q] := by
    rw [inverse, Nat.mul_comm (p - 1), Nat.mul_assoc]
    exact pow_modEq_of_prime second _ x
  have both : x ^ (secret * exponent) ≡ x [MOD p * q] :=
    (Nat.modEq_and_modEq_iff_modEq_mul ((Nat.coprime_primes first second).mpr distinct)).mp
      ⟨modFirst, modSecond⟩
  simp only
  rw [← Nat.pow_mod, ← Nat.pow_mul, both, Nat.mod_eq_of_lt small]

/-! ## A key pair -/

/-- The key pair of two Mersenne primes. -/
def mersennePair : KeyPair where
  modulus := mersenne 521 * mersenne 607
  exponent := 65537
  secret := (10880 * ((mersenne 521 - 1) * (mersenne 607 - 1)) + 1) / 65537

/-- A key pair of the same primes with another public exponent, which divides one more than that multiple
    of the product of their predecessors. -/
def mersenneKey (exponent multiple : Nat) : KeyPair where
  modulus := mersenne 521 * mersenne 607
  exponent := exponent
  secret := (multiple * ((mersenne 521 - 1) * (mersenne 607 - 1)) + 1) / exponent

theorem consistent_mersenneKey {exponent multiple : Nat}
    (divides : (multiple * ((mersenne 521 - 1) * (mersenne 607 - 1)) + 1) % exponent = 0) :
    (mersenneKey exponent multiple).Consistent := by
  have first : (mersenne 521).Prime := lucas_lehmer_sufficiency _ (by simp) (by norm_num)
  have second : (mersenne 607).Prime := lucas_lehmer_sufficiency _ (by simp) (by norm_num)
  have distinct : mersenne 521 ≠ mersenne 607 := by decide +kernel
  apply consistent_of_primes first second distinct
  rw [Nat.div_mul_cancel (Nat.dvd_of_mod_eq_zero divides), Nat.mul_comm multiple]

theorem consistent_mersennePair : mersennePair.Consistent := by
  show (mersenneKey 65537 10880).Consistent
  apply consistent_mersenneKey
  decide +kernel

theorem byteLength_mersennePair : 94 ≤ Octets.byteLength mersennePair.modulus := by decide +kernel

end CertMint.Rsa
