import CertMint.Digest.Word

/-! # SHA-2

The digests of the SHA-2 family. Its members differ in the width of their words, in their constants
and in how many words of the last state they give; the computation is one.
-/

namespace CertMint.Digest

open Octets

/-- What sets one member of the family apart. -/
structure Sha2 where
  width : Nat
  /-- The first state. -/
  start : State
  /-- A constant for each round. -/
  constants : List Nat
  /-- The rotations that mix `a`. -/
  mixA : Nat × Nat × Nat
  /-- The rotations that mix `e`. -/
  mixE : Nat × Nat × Nat
  /-- Two rotations and a shift that mix the word sixteen before. -/
  mixOld : Nat × Nat × Nat
  /-- Two rotations and a shift that mix the word two before. -/
  mixNew : Nat × Nat × Nat
  /-- Octets of the digest. -/
  size : Nat

namespace Sha2

/-- Three rotations of a word, added without carries. -/
def rotations (h : Sha2) (r : Nat × Nat × Nat) (x : Nat) : Nat :=
  (rotateRight h.width r.1 x ^^^ rotateRight h.width r.2.1 x) ^^^ rotateRight h.width r.2.2 x

/-- Two rotations and a shift of a word, added without carries. -/
def rotationsShift (h : Sha2) (r : Nat × Nat × Nat) (x : Nat) : Nat :=
  (rotateRight h.width r.1 x ^^^ rotateRight h.width r.2.1 x) ^^^ (x >>> r.2.2)

/-- One round, with the word and the constant of the round added together. -/
def round (h : Sha2) (s : State) (input : Nat) : State :=
  let choice := (s.e &&& s.f) ^^^ ((Nat.pow 2 h.width - 1 - s.e) &&& s.g)
  let majority := ((s.a &&& s.b) ^^^ (s.a &&& s.c)) ^^^ (s.b &&& s.c)
  let t := s.h + h.rotations h.mixE s.e + choice + input
  let u := h.rotations h.mixA s.a + majority
  ⟨(t + u) % Nat.pow 2 h.width, s.a, s.b, s.c, (s.d + t) % Nat.pow 2 h.width, s.e, s.f, s.g⟩

def nextWord (h : Sha2) (window : List Nat) : Nat :=
  (h.rotationsShift h.mixNew (window.getD 14 0) + window.getD 9 0
    + h.rotationsShift h.mixOld (window.getD 1 0) + window.getD 0 0) % Nat.pow 2 h.width

/-- The rounds of a block: each takes the first of sixteen words, and the next one joins at the
    end. -/
def rounds (h : Sha2) : List Nat → List Nat → State → State
  | [], _, s => s
  | k :: ks, window, s =>
    rounds h ks (window.drop 1 ++ [h.nextWord window]) (h.round s (k + window.getD 0 0))

def absorb (h : Sha2) (s : State) (block : List UInt8) : State :=
  s.plus h.width (h.rounds h.constants (words (h.width / 8) block) s)

/-- Take up blocks, as many as `count` says. -/
def absorbAll (h : Sha2) : Nat → State → List UInt8 → State
  | 0, s, _ => s
  | count + 1, s, octets =>
    absorbAll h count (h.absorb s (octets.take (2 * h.width))) (octets.drop (2 * h.width))

def digest (h : Sha2) (octets : List UInt8) : List UInt8 :=
  let padded := pad (2 * h.width) (h.width / 4) octets
  let last := h.absorbAll (padded.length / (2 * h.width)) h.start padded
  (last.words.flatMap (bigEndian (h.width / 8))).take h.size

/-- The constants of the members with words of 32 bits. -/
def constants32 : List Nat := [
   0x428a2f98, 0x71374491, 0xb5c0fbcf, 0xe9b5dba5, 0x3956c25b, 0x59f111f1, 0x923f82a4,
   0xab1c5ed5, 0xd807aa98, 0x12835b01, 0x243185be, 0x550c7dc3, 0x72be5d74, 0x80deb1fe,
   0x9bdc06a7, 0xc19bf174, 0xe49b69c1, 0xefbe4786, 0x0fc19dc6, 0x240ca1cc, 0x2de92c6f,
   0x4a7484aa, 0x5cb0a9dc, 0x76f988da, 0x983e5152, 0xa831c66d, 0xb00327c8, 0xbf597fc7,
   0xc6e00bf3, 0xd5a79147, 0x06ca6351, 0x14292967, 0x27b70a85, 0x2e1b2138, 0x4d2c6dfc,
   0x53380d13, 0x650a7354, 0x766a0abb, 0x81c2c92e, 0x92722c85, 0xa2bfe8a1, 0xa81a664b,
   0xc24b8b70, 0xc76c51a3, 0xd192e819, 0xd6990624, 0xf40e3585, 0x106aa070, 0x19a4c116,
   0x1e376c08, 0x2748774c, 0x34b0bcb5, 0x391c0cb3, 0x4ed8aa4a, 0x5b9cca4f, 0x682e6ff3,
   0x748f82ee, 0x78a5636f, 0x84c87814, 0x8cc70208, 0x90befffa, 0xa4506ceb, 0xbef9a3f7,
   0xc67178f2]

/-- The constants of the members with words of 64 bits. -/
def constants64 : List Nat := [
   0x428a2f98d728ae22, 0x7137449123ef65cd, 0xb5c0fbcfec4d3b2f, 0xe9b5dba58189dbbc,
   0x3956c25bf348b538, 0x59f111f1b605d019, 0x923f82a4af194f9b, 0xab1c5ed5da6d8118,
   0xd807aa98a3030242, 0x12835b0145706fbe, 0x243185be4ee4b28c, 0x550c7dc3d5ffb4e2,
   0x72be5d74f27b896f, 0x80deb1fe3b1696b1, 0x9bdc06a725c71235, 0xc19bf174cf692694,
   0xe49b69c19ef14ad2, 0xefbe4786384f25e3, 0x0fc19dc68b8cd5b5, 0x240ca1cc77ac9c65,
   0x2de92c6f592b0275, 0x4a7484aa6ea6e483, 0x5cb0a9dcbd41fbd4, 0x76f988da831153b5,
   0x983e5152ee66dfab, 0xa831c66d2db43210, 0xb00327c898fb213f, 0xbf597fc7beef0ee4,
   0xc6e00bf33da88fc2, 0xd5a79147930aa725, 0x06ca6351e003826f, 0x142929670a0e6e70,
   0x27b70a8546d22ffc, 0x2e1b21385c26c926, 0x4d2c6dfc5ac42aed, 0x53380d139d95b3df,
   0x650a73548baf63de, 0x766a0abb3c77b2a8, 0x81c2c92e47edaee6, 0x92722c851482353b,
   0xa2bfe8a14cf10364, 0xa81a664bbc423001, 0xc24b8b70d0f89791, 0xc76c51a30654be30,
   0xd192e819d6ef5218, 0xd69906245565a910, 0xf40e35855771202a, 0x106aa07032bbd1b8,
   0x19a4c116b8d2d0c8, 0x1e376c085141ab53, 0x2748774cdf8eeb99, 0x34b0bcb5e19b48a8,
   0x391c0cb3c5c95a63, 0x4ed8aa4ae3418acb, 0x5b9cca4f7763e373, 0x682e6ff3d6b2b8a3,
   0x748f82ee5defb2fc, 0x78a5636f43172f60, 0x84c87814a1f0ab72, 0x8cc702081a6439ec,
   0x90befffa23631e28, 0xa4506cebde82bde9, 0xbef9a3f7b2c67915, 0xc67178f2e372532b,
   0xca273eceea26619c, 0xd186b8c721c0c207, 0xeada7dd6cde0eb1e, 0xf57d4f7fee6ed178,
   0x06f067aa72176fba, 0x0a637dc5a2c898a6, 0x113f9804bef90dae, 0x1b710b35131c471b,
   0x28db77f523047d84, 0x32caab7b40c72493, 0x3c9ebe0a15c9bebc, 0x431d67c49c100d4c,
   0x4cc5d4becb3e42b6, 0x597f299cfc657e2a, 0x5fcb6fab3ad6faec, 0x6c44198c4a475817]

def sha256 : Sha2 where
  width := 32
  start := ⟨0x6a09e667, 0xbb67ae85, 0x3c6ef372, 0xa54ff53a,
    0x510e527f, 0x9b05688c, 0x1f83d9ab, 0x5be0cd19⟩
  constants := constants32
  mixA := (2, 13, 22)
  mixE := (6, 11, 25)
  mixOld := (7, 18, 3)
  mixNew := (17, 19, 10)
  size := 32

def sha224 : Sha2 :=
  { sha256 with
    start := ⟨0xc1059ed8, 0x367cd507, 0x3070dd17, 0xf70e5939,
      0xffc00b31, 0x68581511, 0x64f98fa7, 0xbefa4fa4⟩
    size := 28 }

def sha512 : Sha2 where
  width := 64
  start := ⟨0x6a09e667f3bcc908, 0xbb67ae8584caa73b, 0x3c6ef372fe94f82b, 0xa54ff53a5f1d36f1,
    0x510e527fade682d1, 0x9b05688c2b3e6c1f, 0x1f83d9abfb41bd6b, 0x5be0cd19137e2179⟩
  constants := constants64
  mixA := (28, 34, 39)
  mixE := (14, 18, 41)
  mixOld := (1, 8, 7)
  mixNew := (19, 61, 6)
  size := 64

def sha384 : Sha2 :=
  { sha512 with
    start := ⟨0xcbbb9d5dc1059ed8, 0x629a292a367cd507, 0x9159015a3070dd17, 0x152fecd8f70e5939,
      0x67332667ffc00b31, 0x8eb44a8768581511, 0xdb0c2e0d64f98fa7, 0x47b5481dbefa4fa4⟩
    size := 48 }

end Sha2

end CertMint.Digest
