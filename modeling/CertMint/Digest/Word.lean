import CertMint.Octets

/-! # Words and blocks

What digests compute on: words of a number of bits, held as natural numbers, states of eight words,
and messages filled up to whole blocks.
-/

namespace CertMint.Digest

open Octets

/-- A word of `width` bits rotated to the right. -/
def rotateRight (width k x : Nat) : Nat := (x >>> k) ||| ((x <<< (width - k)) % Nat.pow 2 width)

/-- A word of `width` bits rotated to the left. -/
def rotateLeft (width k x : Nat) : Nat := ((x <<< k) % Nat.pow 2 width) ||| (x >>> (width - k))

def words (size : Nat) (block : List UInt8) : List Nat :=
  (List.range 16).map fun i => ofBigEndian ((block.drop (i * size)).take size)

/-- A message filled up to whole blocks: a one bit, zeros, and the length of the message in bits in
    the last `lengthOctets` octets. -/
def pad (blockOctets lengthOctets : Nat) (octets : List UInt8) : List UInt8 :=
  let used := (octets.length + 1 + lengthOctets) % blockOctets
  let zeros := if used = 0 then 0 else blockOctets - used
  octets ++ 0x80 :: List.replicate zeros 0 ++ bigEndian lengthOctets (8 * octets.length)

/-- Eight words. -/
structure State where
  a : Nat
  b : Nat
  c : Nat
  d : Nat
  e : Nat
  f : Nat
  g : Nat
  h : Nat
  deriving DecidableEq, Repr

namespace State

def words (s : State) : List Nat := [s.a, s.b, s.c, s.d, s.e, s.f, s.g, s.h]

def plus (width : Nat) (s t : State) : State :=
  ⟨(s.a + t.a) % Nat.pow 2 width, (s.b + t.b) % Nat.pow 2 width, (s.c + t.c) % Nat.pow 2 width,
   (s.d + t.d) % Nat.pow 2 width, (s.e + t.e) % Nat.pow 2 width, (s.f + t.f) % Nat.pow 2 width,
   (s.g + t.g) % Nat.pow 2 width, (s.h + t.h) % Nat.pow 2 width⟩

end State

end CertMint.Digest
