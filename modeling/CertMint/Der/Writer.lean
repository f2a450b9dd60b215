import CertMint.Octets

/-! # DER written

Values in the distinguished encoding: a tag, the length of the content in as few octets as possible,
and the content.
-/

namespace CertMint.Der

open Octets

/-- An object identifier by its arcs. -/
abbrev Oid : Type := List Nat

/-- How many octets of a length follow. The standard has a form for up to 126 of them, one octet; an
    octet 255 before it stands for 127 more, so that no length is left without a form. -/
def countOctets (count : Nat) : List UInt8 :=
  List.replicate (count / 127) 0xff ++ [UInt8.ofNat (128 + count % 127)]

def lengthOctets (n : Nat) : List UInt8 :=
  if n < 128 then [UInt8.ofNat n]
  else countOctets (byteLength n) ++ bigEndian (byteLength n) n

def value (tag : UInt8) (content : List UInt8) : List UInt8 :=
  tag :: lengthOctets content.length ++ content

def boolean (b : Bool) : List UInt8 := value 0x01 [if b then 0xff else 0x00]

/-- The content of a natural number: its octets, with a zero before them when the first bit is
    set. -/
def naturalContent (n : Nat) : List UInt8 := bigEndian (bitLength n / 8 + 1) n

def natural (n : Nat) : List UInt8 := value 0x02 (naturalContent n)

def bitString (octets : List UInt8) : List UInt8 := value 0x03 (0 :: octets)

def octetString (octets : List UInt8) : List UInt8 := value 0x04 octets

def null : List UInt8 := value 0x05 []

/-- The octets of an arc, seven bits in each; all but the last have their first bit set. -/
def arcOctets (n : Nat) : List UInt8 :=
  let rec leading : Nat → Nat → List UInt8
    | 0, _ => []
    | fuel + 1, n =>
      if n = 0 then [] else leading fuel (n / 128) ++ [UInt8.ofNat (128 + n % 128)]
  leading (bitLength n) (n / 128) ++ [UInt8.ofNat (n % 128)]

/-- The content of an object identifier; its first two arcs make one number. -/
def oidContent : Oid → List UInt8
  | a :: b :: rest => arcOctets (40 * a + b) ++ rest.flatMap arcOctets
  | _ => []

def oid (o : Oid) : List UInt8 := value 0x06 (oidContent o)

def sequence (parts : List (List UInt8)) : List UInt8 := value 0x30 parts.flatten

/-- A set of encoded values, which have to be in order. -/
def set (parts : List (List UInt8)) : List UInt8 := value 0x31 parts.flatten

/-- An encoded value under the context's tag `n`. -/
def explicit (n : UInt8) (inner : List UInt8) : List UInt8 := value (0xa0 + n) inner

end CertMint.Der
