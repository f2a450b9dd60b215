import CertMint.Proofs.Der
import CertMint.Rsa
import Mathlib.Data.Nat.ModEq
import Mathlib.Tactic.Ring

/-! # Signatures that fit

Repeated squaring is exponentiation. A filled-up digest is a number below every modulus that it is
filled up for, so raising it to the private exponent and then to the public one gives it again, for
key pairs of which this is true of every number below the modulus.
-/

namespace CertMint.Rsa

open Octets

/-! ## Exponentiation -/

theorem powModWithin_eq {modulus bits base exponent : Nat} (room : exponent < 2 ^ bits) :
    powModWithin modulus bits base exponent = base ^ exponent % modulus := by
  induction bits generalizing base exponent with
  | zero =>
      obtain rfl : exponent = 0 := by omega
      rw [powModWithin, Nat.pow_zero]
  | succ bits ih =>
      rw [powModWithin]
      split
      · next zero => rw [zero, Nat.pow_zero]
      · simp only [@ih (base * base % modulus) (exponent / 2) (by omega),
          ← Nat.pow_mod]
        have square : base ^ exponent = (base * base) ^ (exponent / 2) * base ^ (exponent % 2) := by
          rw [← Nat.pow_two, ← Nat.pow_mul, ← Nat.pow_add, Nat.div_add_mod]
        split
        · next odd => rw [square, odd, Nat.pow_one, Nat.mod_mul_mod]
        · next even =>
            have zero : exponent % 2 = 0 := by omega
            rw [square, zero, Nat.pow_zero, Nat.mul_one]

theorem powMod_eq (modulus base exponent : Nat) :
    powMod modulus base exponent = base ^ exponent % modulus := by
  rw [powMod, powModWithin_eq (lt_two_pow_bitLength exponent), ← Nat.pow_mod]

/-! ## Filled-up digests -/

/-- A filled-up digest is as long as asked for and begins with a zero octet. -/
theorem filled?_eq_cons {size : Nat} {algorithm : Digest.Algorithm} {message block : List UInt8}
    (h : filled? size algorithm message = some block) :
    ∃ rest, block = 0x00 :: rest ∧ rest.length + 1 = size := by
  simp only [filled?, Option.bind_eq_bind, Option.bind_eq_some_iff] at h
  obtain ⟨info, _, h⟩ := h
  split at h
  · cases h
  · obtain rfl := Option.some.inj h
    refine ⟨0x01 :: List.replicate (size - info.length - 3) 0xff ++ 0x00 :: info, rfl, ?_⟩
    simp only [List.length_cons, List.length_append, List.length_replicate]
    omega

theorem ofBigEndian_filled?_lt_modulus {modulus : Nat} {algorithm : Digest.Algorithm}
    {message block : List UInt8} (h : filled? (byteLength modulus) algorithm message = some block) :
    ofBigEndian block < modulus := by
  obtain ⟨rest, rfl, length⟩ := filled?_eq_cons h
  have below : ofBigEndian (0x00 :: rest) < 256 ^ rest.length := ofBigEndian_lt rest
  exact Nat.lt_of_lt_of_le below (pow_le_of_byteLength length.symm)

/-! ## Signing and verifying -/

/-- Raising to the private exponent and then to the public one changes no number below the
    modulus. -/
def KeyPair.Consistent (k : KeyPair) : Prop :=
  ∀ x < k.modulus, (x ^ k.secret % k.modulus) ^ k.exponent % k.modulus = x

/-- What a consistent key pair signs fits its public half. -/
theorem verify_of_sign? {k : KeyPair} {algorithm : Digest.Algorithm} {message signature : List UInt8}
    (consistent : k.Consistent) (h : sign? k algorithm message = some signature) :
    verify k.publicKey algorithm message signature = true := by
  simp only [sign?, Option.bind_eq_bind, Option.bind_eq_some_iff, Option.pure_def,
    Option.some.injEq] at h
  obtain ⟨block, filled, rfl⟩ := h
  have small : ofBigEndian block < k.modulus := ofBigEndian_filled?_lt_modulus filled
  have raised : ofBigEndian block ^ k.secret % k.modulus < k.modulus := Nat.mod_lt _ (by omega)
  have kept : ofBigEndian block ^ k.secret % k.modulus % 256 ^ byteLength k.modulus =
      ofBigEndian block ^ k.secret % k.modulus :=
    Nat.mod_eq_of_lt (Nat.lt_trans raised (lt_pow_byteLength k.modulus))
  have again : bigEndian (byteLength k.modulus) (ofBigEndian block) = block := by
    obtain ⟨rest, rfl, length⟩ := filled?_eq_cons filled
    rw [← length]
    exact bigEndian_ofBigEndian (0x00 :: rest)
  simp only [verify, KeyPair.publicKey, filled, length_bigEndian, ofBigEndian_bigEndian, powMod_eq,
    kept, consistent _ small, again, raised, decide_true, Bool.and_self, beq_self_eq_true]

/-! ## Long enough keys -/

/-- The digest algorithms that settings may name. -/
def sha2Algorithms : List Digest.Algorithm := [.sha224, .sha256, .sha384, .sha512]

/-- A digest of the family with its name takes 83 octets at most. -/
theorem length_digestInfo?_le {algorithm : Digest.Algorithm} (member : algorithm ∈ sha2Algorithms)
    (message : List UInt8) :
    ∃ info, digestInfo? algorithm message = some info ∧ info.length ≤ 83 := by
  have named : ∃ (o : Der.Oid) (h : Digest.Sha2), digestInfo? algorithm message =
      some (Der.sequence [Der.sequence [Der.oid o, Der.null], Der.octetString (h.digest message)]) ∧
        (Der.oidContent o).length = 9 ∧ h.size ≤ 64 := by
    simp only [sha2Algorithms, List.mem_cons, List.not_mem_nil, or_false] at member
    rcases member with rfl | rfl | rfl | rfl
    · exact ⟨_, .sha224, rfl, by decide, by decide⟩
    · exact ⟨_, .sha256, rfl, by decide, by decide⟩
    · exact ⟨_, .sha384, rfl, by decide, by decide⟩
    · exact ⟨_, .sha512, rfl, by decide, by decide⟩
  obtain ⟨o, h, eq, oidLength, size⟩ := named
  have digest : (h.digest message).length ≤ 64 := Nat.le_trans (List.length_take_le _ _) size
  have name : (Der.oid o).length = 11 := by rw [Der.oid, Der.length_value_of_lt _ (by omega), oidLength]
  have null : Der.null.length = 2 := rfl
  have inner : [Der.oid o, Der.null].flatten.length = 13 := by
    simp only [List.flatten_cons, List.flatten_nil, List.length_append, List.length_nil, name, null]
  have parts : (Der.sequence [Der.oid o, Der.null]).length = 15 := by
    rw [Der.sequence, Der.length_value_of_lt _ (by omega), inner]
  have octets : (Der.octetString (h.digest message)).length = (h.digest message).length + 2 :=
    Der.length_value_of_lt _ (by omega)
  have outer : [Der.sequence [Der.oid o, Der.null], Der.octetString (h.digest message)].flatten.length =
      17 + (h.digest message).length := by
    simp only [List.flatten_cons, List.flatten_nil, List.length_append, List.length_nil, parts, octets]
    omega
  refine ⟨_, eq, ?_⟩
  rw [Der.sequence, Der.length_value_of_lt _ (by omega), outer]
  omega

/-- A modulus of 94 octets is long enough to sign with every digest of the family. -/
theorem exists_sign?_eq {k : KeyPair} {algorithm : Digest.Algorithm} (member : algorithm ∈ sha2Algorithms)
    (long : 94 ≤ byteLength k.modulus) (message : List UInt8) :
    ∃ signature, sign? k algorithm message = some signature := by
  obtain ⟨info, eq, length⟩ := length_digestInfo?_le member message
  have fits : ¬ byteLength k.modulus < info.length + 11 := by omega
  simp only [sign?, filled?, eq, Option.bind_eq_bind, Option.bind_some, if_neg fits, Option.pure_def,
    Option.some.injEq, exists_eq']

end CertMint.Rsa
