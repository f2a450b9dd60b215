import CertMint.Digest.Word

/-! # SHA-3

The digests of the SHA-3 family: a permutation of 25 lanes of 64 bits, into which a message is taken
up block by block. Lane `x + 5 * y` stands in column `x` and row `y`.
-/

namespace CertMint.Digest.Sha3

open Octets

/-- The lane in a column and a row. -/
def lane (lanes : List Nat) (x y : Nat) : Nat := lanes.getD (x % 5 + 5 * (y % 5)) 0

/-- Lanes from a function of column and row. -/
def build (f : Nat → Nat → Nat) : List Nat :=
  (List.range 25).map fun i => f (i % 5) (i / 5)

/-- Add to each lane the parities of two columns. -/
def addParities (lanes : List Nat) : List Nat :=
  let parities := (List.range 5).map fun x =>
    lane lanes x 0 ^^^ lane lanes x 1 ^^^ lane lanes x 2 ^^^ lane lanes x 3 ^^^ lane lanes x 4
  let parity (x : Nat) : Nat := parities.getD (x % 5) 0
  build fun x y => lane lanes x y ^^^ (parity (x + 4) ^^^ rotateLeft 64 1 (parity (x + 1)))

def turns : List Nat :=
  [0, 1, 62, 28, 27, 36, 44, 6, 55, 20, 3, 10, 43, 25, 39, 41, 45, 15, 21, 8, 18, 2, 61, 56, 14]

def turnAndMove (lanes : List Nat) : List Nat :=
  build fun x y => rotateLeft 64 (lane turns (x + 3 * y) x) (lane lanes (x + 3 * y) x)

/-- Mix each lane with the two after it in its row. -/
def mixRows (lanes : List Nat) : List Nat :=
  build fun x y => lane lanes x y ^^^
    ((Nat.pow 2 64 - 1 - lane lanes (x + 1) y) &&& lane lanes (x + 2) y)

def constants : List Nat :=
  [0x0000000000000001, 0x0000000000008082, 0x800000000000808a, 0x8000000080008000,
   0x000000000000808b, 0x0000000080000001, 0x8000000080008081, 0x8000000000008009,
   0x000000000000008a, 0x0000000000000088, 0x0000000080008009, 0x000000008000000a,
   0x000000008000808b, 0x800000000000008b, 0x8000000000008089, 0x8000000000008003,
   0x8000000000008002, 0x8000000000000080, 0x000000000000800a, 0x800000008000000a,
   0x8000000080008081, 0x8000000000008080, 0x0000000080000001, 0x8000000080008008]

def round (lanes : List Nat) (constant : Nat) : List Nat :=
  match mixRows (turnAndMove (addParities lanes)) with
  | [] => []
  | first :: rest => (first ^^^ constant) :: rest

def permute (lanes : List Nat) : List Nat := constants.foldl round lanes

/-- The number that eight octets stand for, the first octet counting least. -/
def laneOf (octets : List UInt8) : Nat := ofBigEndian octets.reverse

def addBlock (lanes : List Nat) (block : List UInt8) : List Nat :=
  (List.range 25).map fun i => lanes.getD i 0 ^^^ laneOf ((block.drop (8 * i)).take 8)

/-- Take up blocks of `rate` octets, as many as `count` says. -/
def absorbAll (rate : Nat) : Nat → List Nat → List UInt8 → List Nat
  | 0, lanes, _ => lanes
  | count + 1, lanes, octets =>
    absorbAll rate count (permute (addBlock lanes (octets.take rate))) (octets.drop rate)

/-- A message filled up to whole blocks. -/
def pad (rate : Nat) (octets : List UInt8) : List UInt8 :=
  let missing := rate - octets.length % rate
  if missing = 1 then octets ++ [0x86]
  else octets ++ 0x06 :: List.replicate (missing - 2) 0 ++ [0x80]

def digest (size : Nat) (octets : List UInt8) : List UInt8 :=
  let rate := 200 - 2 * size
  let padded := pad rate octets
  let last := absorbAll rate (padded.length / rate) (List.replicate 25 0) padded
  (last.flatMap (littleEndian 8)).take size

end CertMint.Digest.Sha3
