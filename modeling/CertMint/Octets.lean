/-! # Numbers as octets

Natural numbers written as octets, in both orders, and read back.
-/

namespace CertMint.Octets

/-- The number that octets stand for, the first octet counting most. -/
def ofBigEndian (octets : List UInt8) : Nat := octets.foldl (fun n b => 256 * n + b.toNat) 0

/-- The last `count` octets of a number, the first octet counting most. -/
def bigEndian : Nat → Nat → List UInt8
  | 0, _ => []
  | count + 1, n => bigEndian count (n / 256) ++ [UInt8.ofNat (n % 256)]

/-- The first `count` octets of a number, the first octet counting least. -/
def littleEndian : Nat → Nat → List UInt8
  | 0, _ => []
  | count + 1, n => UInt8.ofNat (n % 256) :: littleEndian count (n / 256)

/-- The number of bits that a number needs. -/
def bitLength (n : Nat) : Nat := if n = 0 then 0 else Nat.log2 n + 1

/-- The number of octets that a number needs. -/
def byteLength (n : Nat) : Nat := (bitLength n + 7) / 8

end CertMint.Octets
