import CertMint.Proofs.Octets
import CertMint.Text.Utf8
import Mathlib.Tactic.IntervalCases

/-! # UTF-8 read back

The octets of a text are decoded to the text. A run over the octets of one character puts that
character down and is idle again, whatever has been decoded before and whatever follows.
-/

namespace CertMint.Text

open Octets

/-! ## First octets -/

private theorem utf8Lead?_one {n : Nat} (h : n < 0x80) :
    utf8Lead? (UInt8.ofNat n) = some (0, n, 0, 0) := by
  have octet : n < 256 := by omega
  rw [utf8Lead?, if_pos ((ofNat_lt_iff octet).mpr h), toNat_ofNat octet]

private theorem utf8Lead?_two {lead : Nat} (low : 2 ≤ lead) (high : lead < 32) :
    utf8Lead? (UInt8.ofNat (0xc0 + lead)) = some (1, lead, 0x80, 0xbf) := by
  interval_cases lead <;> rfl

private theorem utf8Lead?_three {lead : Nat} (high : lead < 16) :
    utf8Lead? (UInt8.ofNat (0xe0 + lead)) =
      some (2, lead, if lead = 0 then 0xa0 else 0x80, if lead = 13 then 0x9f else 0xbf) := by
  interval_cases lead <;> rfl

private theorem utf8Lead?_four {lead : Nat} (high : lead < 5) :
    utf8Lead? (UInt8.ofNat (0xf0 + lead)) =
      some (3, lead, if lead = 0 then 0x90 else 0x80, if lead = 4 then 0x8f else 0xbf) := by
  interval_cases lead <;> rfl

private theorem utf8Run_lead {b low high : UInt8} {missing value : Nat}
    (h : utf8Lead? b = some (missing + 1, value, low, high)) (position : Nat) (done : List Char)
    (rest : List UInt8) :
    utf8Run position done .idle (b :: rest) =
      utf8Run position done (.open_ [b] value (missing + 1) low high) rest := by
  rw [utf8Run, h]
  rfl

/-! ## Octets that go on -/

/-- One octet that goes on with a sequence brings its six bits. -/
private theorem utf8Run_tail {position value missing bits : Nat} {done : List Char}
    {seen rest : List UInt8} {low high : UInt8} (few : bits < 64)
    (above : low.toNat ≤ 0x80 + bits) (below : 0x80 + bits ≤ high.toNat) :
    utf8Run position done (.open_ seen value missing low high) (UInt8.ofNat (0x80 + bits) :: rest) =
      if missing ≤ 1 then
        utf8Run (position + seen.length + 1) (Char.ofNat (64 * value + bits) :: done) .idle rest
      else utf8Run position done
        (.open_ (seen ++ [UInt8.ofNat (0x80 + bits)]) (64 * value + bits) (missing - 1) 0x80 0xbf)
        rest := by
  have octet : (UInt8.ofNat (0x80 + bits)).toNat = 0x80 + bits := toNat_ofNat (by omega)
  have inside : low ≤ UInt8.ofNat (0x80 + bits) ∧ UInt8.ofNat (0x80 + bits) ≤ high := by
    rw [UInt8.le_iff_toNat_le, UInt8.le_iff_toNat_le, octet]
    exact ⟨above, below⟩
  rw [utf8Run, if_pos inside, octet, Nat.add_sub_cancel_left]

/-- The octets of a character put it down. -/
theorem utf8Run_utf8Char (c : Char) (position : Nat) (done : List Char) (rest : List UInt8) :
    utf8Run position done .idle (utf8Char c ++ rest) =
      utf8Run (position + (utf8Char c).length) (c :: done) .idle rest := by
  have scalar : c.toNat < 0xd800 ∨ 0xdfff < c.toNat ∧ c.toNat < 0x110000 := c.valid
  have whole : Char.ofNat c.toNat = c := Char.ofNat_toNat c
  rw [utf8Char]
  generalize c.toNat = n at scalar whole ⊢
  split
  · next one =>
      rw [List.singleton_append, utf8Run, utf8Lead?_one one, List.length_singleton, ← whole]
      rfl
  · split
    · next two =>
        have bits : 64 * (n / 64) + n % 64 = n := Nat.div_add_mod n 64
        rw [List.cons_append, List.singleton_append, utf8Run_lead (utf8Lead?_two (by omega) (by omega)),
          utf8Run_tail (Nat.mod_lt _ (by omega)) (Nat.le_add_right _ _)
          (by simp only [UInt8.reduceToNat]; omega), if_pos (Nat.le_refl 1), bits, whole]
        rfl
    · split
      · next three =>
          have bits : 64 * (64 * (n / 4096) + n / 64 % 64) + n % 64 = n := by omega
          have low : (if n / 4096 = 0 then 0xa0 else 0x80 : UInt8).toNat ≤ 0x80 + n / 64 % 64 := by
            split <;> simp only [UInt8.reduceToNat] <;> omega
          have high : 0x80 + n / 64 % 64 ≤ (if n / 4096 = 13 then 0x9f else 0xbf : UInt8).toNat := by
            split <;> simp only [UInt8.reduceToNat] <;> omega
          rw [List.cons_append, List.cons_append, List.singleton_append,
            utf8Run_lead (utf8Lead?_three (by omega)), utf8Run_tail (Nat.mod_lt _ (by omega)) low high,
            if_neg (by omega),
            utf8Run_tail (Nat.mod_lt _ (by omega)) (Nat.le_add_right _ _)
              (by simp only [UInt8.reduceToNat]; omega), if_pos (Nat.le_refl 1), bits, whole]
          rfl
      · next four =>
          have bits : 64 * (64 * (64 * (n / 262144) + n / 4096 % 64) + n / 64 % 64) + n % 64 = n := by
            omega
          have low : (if n / 262144 = 0 then 0x90 else 0x80 : UInt8).toNat ≤
              0x80 + n / 4096 % 64 := by
            split <;> simp only [UInt8.reduceToNat] <;> omega
          have high : 0x80 + n / 4096 % 64 ≤
              (if n / 262144 = 4 then 0x8f else 0xbf : UInt8).toNat := by
            split <;> simp only [UInt8.reduceToNat] <;> omega
          rw [List.cons_append, List.cons_append, List.cons_append, List.singleton_append,
            utf8Run_lead (utf8Lead?_four (by omega)), utf8Run_tail (Nat.mod_lt _ (by omega)) low high,
            if_neg (by omega),
            utf8Run_tail (Nat.mod_lt _ (by omega)) (Nat.le_add_right _ _)
              (by simp only [UInt8.reduceToNat]; omega), if_neg (by omega),
            utf8Run_tail (Nat.mod_lt _ (by omega)) (Nat.le_add_right _ _)
              (by simp only [UInt8.reduceToNat]; omega), if_pos (Nat.le_refl 1), bits, whole]
          rfl

theorem utf8Run_flatMap (cs : List Char) (position : Nat) (done : List Char) :
    utf8Run position done .idle (cs.flatMap utf8Char) = .ok (cs.reverse ++ done, []) := by
  induction cs generalizing position done with
  | nil => rfl
  | cons c cs ih =>
      rw [List.flatMap_cons, utf8Run_utf8Char, ih, List.reverse_cons, List.append_assoc,
        List.singleton_append]

/-- A text is what its octets are read as. -/
theorem ofUtf8?_utf8 (s : String) : ofUtf8? (utf8 s) = some s := by
  rw [ofUtf8?, utf8Decode, utf8, utf8Run_flatMap]
  simp only [List.append_nil, List.reverse_reverse, String.ofList_toList]

end CertMint.Text
