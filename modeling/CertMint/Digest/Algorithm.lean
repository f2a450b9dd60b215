import CertMint.Digest.Sha1
import CertMint.Digest.Sha2
import CertMint.Digest.Sha3

/-! # Digest algorithms

The digest algorithms that have a name, with the length of their digests, and the digests of those
that sign certificates.
-/

namespace CertMint.Digest

/-- A digest algorithm. -/
inductive Algorithm where
  | md5
  | sha1
  | sha224
  | sha256
  | sha384
  | sha512
  /-- SHA-512 cut to 224 bits. -/
  | sha512To224
  /-- SHA-512 cut to 256 bits. -/
  | sha512To256
  | sha3At224
  | sha3At256
  | sha3At384
  | sha3At512
  | sm3
  deriving DecidableEq, Repr

namespace Algorithm

def all : List Algorithm :=
  [.sha1, .sha224, .sha256, .sha384, .sha512, .sha512To224, .sha512To256, .sha3At224, .sha3At256,
   .sha3At384, .sha3At512, .md5, .sm3]

/-- The name under which an algorithm is asked for. -/
def key : Algorithm → String
  | .md5 => "MD5"
  | .sha1 => "SHA1"
  | .sha224 => "SHA224"
  | .sha256 => "SHA256"
  | .sha384 => "SHA384"
  | .sha512 => "SHA512"
  | .sha512To224 => "SHA512_224"
  | .sha512To256 => "SHA512_256"
  | .sha3At224 => "SHA3_224"
  | .sha3At256 => "SHA3_256"
  | .sha3At384 => "SHA3_384"
  | .sha3At512 => "SHA3_512"
  | .sm3 => "SM3"

def label : Algorithm → String
  | .md5 => "md5"
  | .sha1 => "sha1"
  | .sha224 => "sha224"
  | .sha256 => "sha256"
  | .sha384 => "sha384"
  | .sha512 => "sha512"
  | .sha512To224 => "sha512-224"
  | .sha512To256 => "sha512-256"
  | .sha3At224 => "sha3-224"
  | .sha3At256 => "sha3-256"
  | .sha3At384 => "sha3-384"
  | .sha3At512 => "sha3-512"
  | .sm3 => "sm3"

def size : Algorithm → Nat
  | .md5 => 16
  | .sha1 => 20
  | .sha224 | .sha512To224 | .sha3At224 => 28
  | .sha256 | .sha512To256 | .sha3At256 | .sm3 => 32
  | .sha384 | .sha3At384 => 48
  | .sha512 | .sha3At512 => 64

def ofKey? (name : String) : Option Algorithm := all.find? (·.key == name)

/-- The digest of octets under an algorithm that certificates are signed with. -/
def digest? : Algorithm → Option (List UInt8 → List UInt8)
  | .sha1 => some Sha1.digest
  | .sha224 => some Sha2.sha224.digest
  | .sha256 => some Sha2.sha256.digest
  | .sha384 => some Sha2.sha384.digest
  | .sha512 => some Sha2.sha512.digest
  | .sha3At224 => some (Sha3.digest 28)
  | .sha3At256 => some (Sha3.digest 32)
  | .sha3At384 => some (Sha3.digest 48)
  | .sha3At512 => some (Sha3.digest 64)
  | .md5 | .sha512To224 | .sha512To256 | .sm3 => none

end Algorithm

end CertMint.Digest
