import CertMint.Rsa
import CertMint.Time.Moment
import CertMint.X509.Name

/-! # Certificates

A certificate with its parts, its encoding, and the reading of encodings. The octets that were signed
and the octets of the whole are kept as they came, because fingerprints and signatures are taken over
them.
-/

namespace CertMint.X509

/-- The algorithm of a signature: its object identifier and its encoded parameters. -/
structure SignatureAlgorithm where
  oid : Der.Oid
  parameters : Option (List UInt8)
  deriving DecidableEq, Repr

/-- An extension. -/
structure Extension where
  oid : Der.Oid
  /-- Whether readers that do not know the type have to refuse the certificate. -/
  critical : Bool
  content : List UInt8
  deriving DecidableEq, Repr

/-- A certificate. -/
structure Certificate where
  serial : Int
  /-- The algorithm of the signature, as the signed part names it. -/
  innerAlgorithm : SignatureAlgorithm
  issuer : Name
  notBefore : Moment
  notAfter : Moment
  subject : Name
  /-- The certified key, if it is an RSA key. -/
  key : Option Rsa.PublicKey
  extensions : List Extension
  /-- The signed octets. -/
  signed : List UInt8
  outerAlgorithm : SignatureAlgorithm
  signature : List UInt8
  /-- The octets of the whole. -/
  der : List UInt8
  deriving DecidableEq, Repr

namespace SignatureAlgorithm

/-- The object identifiers of RSA signatures and their digest algorithms. -/
def rsaOids : List (Der.Oid × Digest.Algorithm) :=
  [([1, 2, 840, 113549, 1, 1, 4], .md5), ([1, 2, 840, 113549, 1, 1, 5], .sha1),
   ([1, 3, 14, 3, 2, 29], .sha1),
   ([1, 2, 840, 113549, 1, 1, 14], .sha224), ([1, 2, 840, 113549, 1, 1, 11], .sha256),
   ([1, 2, 840, 113549, 1, 1, 12], .sha384), ([1, 2, 840, 113549, 1, 1, 13], .sha512),
   ([2, 16, 840, 1, 101, 3, 4, 3, 13], .sha3At224), ([2, 16, 840, 1, 101, 3, 4, 3, 14], .sha3At256),
   ([2, 16, 840, 1, 101, 3, 4, 3, 15], .sha3At384), ([2, 16, 840, 1, 101, 3, 4, 3, 16], .sha3At512)]

/-- The object identifiers of signatures with keys of other kinds and their digest algorithms. -/
def otherOids : List (Der.Oid × Digest.Algorithm) :=
  [([1, 2, 840, 10045, 4, 1], .sha1), ([1, 2, 840, 10045, 4, 3, 1], .sha224),
   ([1, 2, 840, 10045, 4, 3, 2], .sha256), ([1, 2, 840, 10045, 4, 3, 3], .sha384),
   ([1, 2, 840, 10045, 4, 3, 4], .sha512), ([1, 2, 840, 10040, 4, 3], .sha1),
   ([2, 16, 840, 1, 101, 3, 4, 3, 1], .sha224), ([2, 16, 840, 1, 101, 3, 4, 3, 2], .sha256)]

def rsaDigest? (a : SignatureAlgorithm) : Option Digest.Algorithm :=
  (rsaOids.find? (·.1 == a.oid)).map (·.2)

def digest? (a : SignatureAlgorithm) : Option Digest.Algorithm :=
  ((rsaOids ++ otherOids).find? (·.1 == a.oid)).map (·.2)

/-- The algorithm of RSA signatures over a digest that engines sign with. -/
def ofDigest? (d : Digest.Algorithm) : Option SignatureAlgorithm :=
  match d with
  | .md5 | .sha1 => none
  | d => (rsaOids.find? (·.2 == d)).map fun entry => ⟨entry.1, some Der.null⟩

def encode (a : SignatureAlgorithm) : List UInt8 :=
  Der.sequence (Der.oid a.oid :: a.parameters.toList)

/-- Read an algorithm. The parameters of an RSA signature are nothing or left out. -/
def ofElement? (e : Der.Element) : Option SignatureAlgorithm := do
  match ← e.sequence? with
  | [oid] => return ⟨← oid.oid?, none⟩
  | [oid, parameters] =>
    let a : SignatureAlgorithm := ⟨← oid.oid?, some parameters.raw⟩
    if a.rsaDigest?.isSome && !parameters.isNull then none else return a
  | _ => none

end SignatureAlgorithm

/-! ## Moments in certificates -/

/-- Two digits for each of the parts of a moment below the year. -/
def timeDigits (m : Moment) : List Char :=
  let d := m.date
  let (hour, minute, sec, _) := m.time
  [d.month, d.day, hour, minute, sec].flatMap (Moment.padded 2) ++ ['Z']

/-- The octets of ASCII characters. -/
def asciiOctets (cs : List Char) : List UInt8 := cs.map fun c => UInt8.ofNat c.toNat

/-- The year from which on years are written with four digits. -/
def longYears : Nat := 2050

/-- A moment of universal time; years before 2050 are written with their last two digits. -/
def encodeMoment (m : Moment) : List UInt8 :=
  let year := m.date.year
  if year < longYears then
    Der.value 0x17 (asciiOctets (Moment.padded 2 (year % 100) ++ timeDigits m))
  else Der.value 0x18 (asciiOctets (Moment.padded 4 year ++ timeDigits m))

/-- A moment from its digits after the year. -/
def momentOf? (year : Nat) (cs : List Char) : Option Moment := do
  let (month, cs) ← Moment.takeNumber? 2 cs
  let (dayOfMonth, cs) ← Moment.takeNumber? 2 cs
  let (hour, cs) ← Moment.takeNumber? 2 cs
  let (minute, cs) ← Moment.takeNumber? 2 cs
  let (sec, cs) ← Moment.takeNumber? 2 cs
  let date : Calendar.Date := ⟨year, month, dayOfMonth⟩
  if cs = ['Z'] ∧ date.exists ∧ hour < 24 ∧ minute < 60 ∧ sec < 60 then
    some (Moment.ofDate date (((hour * 60 + minute) * 60 + sec) * 1000000) (some 0))
  else none

def readMoment? (e : Der.Element) : Option Moment := do
  let cs := e.content.map fun b => Char.ofNat b.toNat
  match e.tag with
  | 0x17 =>
    let (year, cs) ← Moment.takeNumber? 2 cs
    momentOf? (if year < 50 then 2000 + year else 1900 + year) cs
  | 0x18 =>
    let (year, cs) ← Moment.takeNumber? 4 cs
    momentOf? year cs
  | _ => none

namespace Extension

def basicConstraints : Der.Oid := [2, 5, 29, 19]

/-- The basic constraints of an authority with a path length: critical. -/
def ofAuthority (pathLength : Nat) : Extension :=
  ⟨basicConstraints, true, Der.sequence [Der.boolean true, Der.natural pathLength]⟩

/-- The encoding. That an extension is critical is written only when it is. -/
def encode (x : Extension) : List UInt8 :=
  Der.sequence ([Der.oid x.oid] ++ (if x.critical then [Der.boolean true] else [])
    ++ [Der.octetString x.content])

def ofElement? (e : Der.Element) : Option Extension := do
  match ← e.sequence? with
  | [oid, content] => return ⟨← oid.oid?, false, ← content.octets?⟩
  | [oid, critical, content] =>
    if (← critical.boolean?) then return ⟨← oid.oid?, true, ← content.octets?⟩ else none
  | _ => none

/-- Read the value of basic constraints: whether the subject is an authority, and the path
    length. -/
def constraints? (content : List UInt8) : Option (Bool × Option Nat) := do
  let limited (e : Der.Element) : Option Nat := do
    let n ← e.natural?
    if n < Nat.pow 2 64 then some n else none
  match ← (← Der.single? content).sequence? with
  | [] => return (false, none)
  | [e] =>
    if e.tag = 0x01 then
      if (← e.boolean?) then return (true, none) else none
    else return (false, some (← limited e))
  | [a, n] => if (← a.boolean?) then return (true, some (← limited n)) else none
  | _ => none

end Extension

namespace Certificate

/-! ## Reading -/

def takeVersion : List Der.Element → Option (Nat × List Der.Element)
  | [] => none
  | e :: rest =>
    if e.tag = 0xa0 then do
      let n ← (← Der.single? e.content).natural?
      if n = 0 ∨ 256 ≤ n then none else return (n, rest)
    else return (0, e :: rest)

/-- Drop an optional value of bits under a tag of the context. -/
def dropBits (tag : UInt8) : List Der.Element → Option (List Der.Element)
  | e :: rest =>
    if e.tag = tag then
      if ({ e with tag := 0x03 } : Der.Element).isBits then some rest else none
    else some (e :: rest)
  | [] => some []

def readExtensions : List Der.Element → Option (List Extension)
  | [] => some []
  | [e] => do
    let inner ← Der.single? (← e.tagged? 0xa3)
    (← inner.sequence?).mapM Extension.ofElement?
  | _ => none

/-- Whether a value has the form of a key. -/
def isKey (e : Der.Element) : Bool :=
  match e.sequence? with
  | some [algorithm, bits] => algorithm.tag = 0x30 && bits.isBits
  | _ => false

/-- Read a certificate, with the version that it states. -/
def read? (der : List UInt8) : Option (Nat × Certificate) := do
  let [signed, outer, bits] ← (← Der.single? der).sequence? | none
  let (version, parts) ← takeVersion (← signed.sequence?)
  let serial :: inner :: issuer :: validity :: subject :: key :: parts := parts | none
  let [notBefore, notAfter] ← validity.sequence? | none
  if !isKey key then none
  let parts ← dropBits 0x81 parts
  let parts ← dropBits 0x82 parts
  let certificate : Certificate := {
    serial := ← serial.integer?
    innerAlgorithm := ← SignatureAlgorithm.ofElement? inner
    issuer := ← Name.ofElement? issuer
    notBefore := ← readMoment? notBefore
    notAfter := ← readMoment? notAfter
    subject := ← Name.ofElement? subject
    key := Rsa.PublicKey.ofElement? key
    extensions := ← readExtensions parts
    signed := signed.raw
    outerAlgorithm := ← SignatureAlgorithm.ofElement? outer
    signature := ← bits.bits?
    der := der }
  return (version, certificate)

/-- The certificate that octets encode. Versions 1 and 3 are stated as 0 and 2. -/
def ofDer (der : List UInt8) : Except Fault Certificate :=
  match read? der with
  | none => .error readerFault
  | some (version, c) =>
    if version = 0 ∨ version = 2 then .ok c
    else .error (.of (.derived .general "cryptography.x509.base." "InvalidVersion")
      (toString version ++ " is not a valid X509 version"))

/-! ## Extensions -/

/-- The first type of extension that comes a second time. -/
def repeatedExtension? (seen : List Der.Oid) : List Extension → Option Der.Oid
  | [] => none
  | x :: rest =>
    if seen.contains x.oid then some x.oid else repeatedExtension? (x.oid :: seen) rest

/-- The path length in the basic constraints, if the certificate has any. -/
def pathLength (c : Certificate) : Except Fault (Option Nat) :=
  match repeatedExtension? [] c.extensions with
  | some oid => .error (.of .duplicateExtension
      ("Duplicate " ++ Der.oidText oid ++ " extension found"))
  | none =>
    match c.extensions.find? (·.oid == Extension.basicConstraints) with
    | none => .ok none
    | some x =>
      match Extension.constraints? x.content with
      | none => .error readerFault
      | some (false, some _) => .error (.of .value "path_length must be None when ca is False")
      | some (_, n) => .ok n

/-! ## Signatures -/

/-- Why a certificate is not accepted as signed by another. -/
inductive Rejection where
  /-- The other certificate has another subject than this one's issuer. -/
  | names
  /-- The signed part names another algorithm than the whole. -/
  | algorithms
  /-- The key of the other certificate is not for signatures of this kind. -/
  | keyKind
  | signature
  deriving DecidableEq, Repr

namespace Rejection

def message : Rejection → String
  | .names => "Issuer certificate subject does not match certificate issuer."
  | .algorithms =>
    "Inner and outer signature algorithms do not match. This is an invalid certificate."
  | .keyKind => "Signature algorithm does not match issuer key type"
  | .signature => ""

end Rejection

/-- Why a certificate is not accepted as signed by another, if it is not. -/
def rejection? (c issuer : Certificate) : Option Rejection :=
  if c.issuer ≠ issuer.subject then some .names
  else if c.innerAlgorithm ≠ c.outerAlgorithm then some .algorithms
  else match issuer.key, c.outerAlgorithm.rsaDigest? with
    | some key, some digest =>
      if Rsa.verify key digest c.signed c.signature then none else some .signature
    | _, _ => some .keyKind

/-- The SHA-256 digest of the whole. -/
def fingerprint (c : Certificate) : List UInt8 := Digest.Sha2.sha256.digest c.der

end Certificate

end CertMint.X509
