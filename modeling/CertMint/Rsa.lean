import CertMint.Der.Reader
import CertMint.Digest.Algorithm

/-! # RSA signatures

Keys, and signatures of the older of the two RSA schemes: the digest of the message, named by its
algorithm and filled up with octets 255 to the length of the modulus, raised to the private exponent.
A signature fits when raising it to the public exponent gives those octets again.
-/

namespace CertMint.Rsa

open Octets

/-- A public key. -/
structure PublicKey where
  modulus : Nat
  exponent : Nat
  deriving DecidableEq, Repr

/-- A key pair. -/
structure KeyPair where
  modulus : Nat
  exponent : Nat
  secret : Nat
  deriving DecidableEq, Repr

namespace KeyPair

def publicKey (k : KeyPair) : PublicKey := ⟨k.modulus, k.exponent⟩

end KeyPair

/-- `base ^ exponent` modulo `modulus`, by repeated squaring. The first argument bounds the number
    of bits of the exponent. -/
def powModWithin (modulus : Nat) : Nat → Nat → Nat → Nat
  | 0, _, _ => 1 % modulus
  | bits + 1, base, exponent =>
    if exponent = 0 then 1 % modulus
    else
      let half := powModWithin modulus bits (base * base % modulus) (exponent / 2)
      if exponent % 2 = 1 then half * base % modulus else half

def powMod (modulus base exponent : Nat) : Nat :=
  powModWithin modulus (bitLength exponent) (base % modulus) exponent

/-- The object identifier by which a signature names a digest algorithm. -/
def digestOid? : Digest.Algorithm → Option Der.Oid
  | .sha1 => some [1, 3, 14, 3, 2, 26]
  | .sha224 => some [2, 16, 840, 1, 101, 3, 4, 2, 4]
  | .sha256 => some [2, 16, 840, 1, 101, 3, 4, 2, 1]
  | .sha384 => some [2, 16, 840, 1, 101, 3, 4, 2, 2]
  | .sha512 => some [2, 16, 840, 1, 101, 3, 4, 2, 3]
  | .sha3At224 => some [2, 16, 840, 1, 101, 3, 4, 2, 7]
  | .sha3At256 => some [2, 16, 840, 1, 101, 3, 4, 2, 8]
  | .sha3At384 => some [2, 16, 840, 1, 101, 3, 4, 2, 9]
  | .sha3At512 => some [2, 16, 840, 1, 101, 3, 4, 2, 10]
  | .md5 | .sha512To224 | .sha512To256 | .sm3 => none

/-- A digest together with the name of its algorithm. -/
def digestInfo? (algorithm : Digest.Algorithm) (message : List UInt8) : Option (List UInt8) := do
  let oid ← digestOid? algorithm
  let digest ← algorithm.digest?
  return Der.sequence [Der.sequence [Der.oid oid, Der.null], Der.octetString (digest message)]

/-- A digest with its name, filled up to `size` octets, if it fits. -/
def filled? (size : Nat) (algorithm : Digest.Algorithm) (message : List UInt8) :
    Option (List UInt8) := do
  let info ← digestInfo? algorithm message
  if size < info.length + 11 then none
  else
    return 0x00 :: 0x01 :: List.replicate (size - info.length - 3) 0xff ++ 0x00 :: info

/-- Sign a message, if the modulus is long enough for the digest. -/
def sign? (k : KeyPair) (algorithm : Digest.Algorithm) (message : List UInt8) :
    Option (List UInt8) := do
  let size := byteLength k.modulus
  let block ← filled? size algorithm message
  return bigEndian size (powMod k.modulus (ofBigEndian block) k.secret)

def verify (k : PublicKey) (algorithm : Digest.Algorithm) (message signature : List UInt8) : Bool :=
  let size := byteLength k.modulus
  let s := ofBigEndian signature
  match filled? size algorithm message with
  | none => false
  | some block => signature.length = size && s < k.modulus &&
      bigEndian size (powMod k.modulus s k.exponent) == block

namespace PublicKey

def oid : Der.Oid := [1, 2, 840, 113549, 1, 1, 1]

def encode (k : PublicKey) : List UInt8 :=
  Der.sequence [Der.sequence [Der.oid oid, Der.null],
    Der.bitString (Der.sequence [Der.natural k.modulus, Der.natural k.exponent])]

/-- The key in the form in which certificates hold it, if it is an RSA key. -/
def ofElement? (e : Der.Element) : Option PublicKey := do
  let [algorithm, bits] ← e.sequence? | none
  let parts ← algorithm.sequence?
  let (name, parameters) ← match parts with
    | [name] => some (name, none)
    | [name, parameters] => some (name, some parameters)
    | _ => none
  if (← name.oid?) ≠ oid then none
  if !(parameters.map Der.Element.isNull).getD true then none
  let inner ← Der.single? (← bits.bits?)
  let [n, exponent] ← inner.sequence? | none
  return ⟨← n.natural?, ← exponent.natural?⟩

end PublicKey

end CertMint.Rsa
