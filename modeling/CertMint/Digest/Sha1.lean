import CertMint.Digest.Word

/-! # SHA-1

The digest of twenty octets that older signatures use. Of a state's eight words it uses five.
-/

namespace CertMint.Digest.Sha1

open Octets

/-- How the second to fourth words are mixed in a round. -/
def mix (round b c d : Nat) : Nat :=
  if round < 20 then (b &&& c) ||| ((Nat.pow 2 32 - 1 - b) &&& d)
  else if 40 ≤ round ∧ round < 60 then (b &&& c) ||| (b &&& d) ||| (c &&& d)
  else b ^^^ c ^^^ d

def constant (round : Nat) : Nat :=
  if round < 20 then 0x5a827999
  else if round < 40 then 0x6ed9eba1
  else if round < 60 then 0x8f1bbcdc
  else 0xca62c1d6

def nextWord (window : List Nat) : Nat :=
  rotateLeft 32 1 (window.getD 13 0 ^^^ window.getD 8 0 ^^^ window.getD 2 0 ^^^ window.getD 0 0)

/-- The rounds of a block that are left. -/
def rounds : Nat → List Nat → State → State
  | 0, _, s => s
  | left + 1, window, s =>
    let round := 79 - left
    let t := (rotateLeft 32 5 s.a + mix round s.b s.c s.d + s.e + constant round
      + window.getD 0 0) % Nat.pow 2 32
    rounds left (window.drop 1 ++ [nextWord window])
      { s with a := t, b := s.a, c := rotateLeft 32 30 s.b, d := s.c, e := s.d }

/-- Take up blocks, as many as `count` says. -/
def absorbAll : Nat → State → List UInt8 → State
  | 0, s, _ => s
  | count + 1, s, octets =>
    absorbAll count (s.plus 32 (rounds 80 (words 4 (octets.take 64)) s)) (octets.drop 64)

def start : State := ⟨0x67452301, 0xefcdab89, 0x98badcfe, 0x10325476, 0xc3d2e1f0, 0, 0, 0⟩

def digest (octets : List UInt8) : List UInt8 :=
  let padded := pad 64 8 octets
  let last := absorbAll (padded.length / 64) start padded
  ((last.words.take 5).flatMap (bigEndian 4))

end CertMint.Digest.Sha1
