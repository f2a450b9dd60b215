import CertMint.Mint.KeySource
import CertMint.Mint.Engine
import CertMint.Mint.Window
import CertMint.Text.Base64
import CertMint.X509.Certificate

/-! # The forge

A certificate is first described and then signed. Its names are derived from the keys of the issuer
and of the subject; its serial number is drawn; its validity is the valid or the expired window; and
unless it is at the end of a chain it is an authority whose path length is one less than its distance
from that end.
-/

namespace CertMint.Mint

open X509

/-- The name under which issued certificates are noted. -/
def forgeLogger : String := "certfixtures.security.certificate_forge"

/-- The description of a certificate before it is signed. -/
structure Spec where
  issuer : Name
  subject : Name
  serial : Datum
  validity : Window
  pathLength : Datum

namespace Spec

/-- Whether the certificate is that of an authority. -/
def isAuthority (s : Spec) : Bool :=
  match s.pathLength with
  | .none => false
  | _ => true

end Spec

/-! ## Names -/

/-- The common name derived from a key: the SHA-256 digest of its encoding. -/
def keyText (k : Rsa.PublicKey) : String :=
  String.ofList (Text.Base64.encodeWith Text.Base64.urlDigit (Digest.Sha2.sha256.digest k.encode))

def keyName (k : Rsa.PublicKey) : Name := Name.ofCommonName (keyText k)

def maxCommonName : Nat := 64

/-- A name that consists of one common name, if that is neither empty nor too long. -/
def commonName (s : String) : Except Fault Name :=
  let n := (Text.utf8 s).length
  if n < 1 ∨ maxCommonName < n then
    .error (.of .value ("Attribute's length must be >= 1 and <= " ++ toString maxCommonName
      ++ ", but it was " ++ toString n))
  else .ok (Name.ofCommonName s)

/-! ## Signing -/

def checkSerial (d : Datum) : Except Fault Nat :=
  match d.int? with
  | none => .error (.of .type "Serial number must be of integral type.")
  | some i =>
    if i ≤ 0 then .error (.of .value "The serial number should be positive.")
    else if 160 ≤ Octets.bitLength i.toNat then
      .error (.of .value "The serial number should not be more than 159 bits.")
    else .ok i.toNat

def firstMoment : Moment := Moment.ofDate ⟨1950, 1, 1⟩ 0 (some 0)

/-- A bound of the validity to be signed: on a clock of universal time, not before 1950. -/
def checkBound (word : String) (m : Moment) : Except Fault Moment :=
  match m.toUniversal? with
  | none => .error Work.outOfYears
  | some u =>
    if u.clock < firstMoment.clock then
      .error (.of .value ("The not valid " ++ word
        ++ " date must be on or after 1950 January 1" ++ if word = "before" then ")." else "."))
    else .ok u

/-- The path length to be signed, if the certificate is that of an authority. -/
def checkPathLength (d : Datum) : Except Fault (Option Nat) :=
  match d with
  | .none => .ok none
  | d =>
    match d.int? with
    | some i =>
      if 0 ≤ i then .ok (some i.toNat)
      else .error (.of .type "path_length must be a non-negative integer or None")
    | none => .error (.of .type "path_length must be a non-negative integer or None")

/-- The algorithm of signatures over a digest, if engines sign with it. -/
def checkAlgorithm (d : Digest.Algorithm) : Except Fault SignatureAlgorithm :=
  match SignatureAlgorithm.ofDigest? d with
  | some a => .ok a
  | none => .error (.of .unsupportedAlgorithm
      ("Hash algorithm \"" ++ d.label ++ "\" not supported for signatures"))

/-- The bound of the path lengths that can be signed. -/
def pathLengthBound : Nat := Nat.pow 2 64

/-- The extensions of a certificate with a path length. -/
def extensionsFor : Option Nat → Except Fault (List Extension)
  | none => .ok []
  | some n =>
    if n < pathLengthBound then .ok [Extension.ofAuthority n]
    else .error (.of .type "failed to extract field PyBasicConstraints.path_length")

def signedPart (serial : Nat) (algorithm : SignatureAlgorithm) (issuer : Name)
    (notBefore notAfter : Moment) (subject : Name) (key : Rsa.PublicKey)
    (extensions : List Extension) : List UInt8 :=
  Der.sequence ([Der.explicit 0 (Der.natural 2), Der.natural serial, algorithm.encode,
      issuer.encode, Der.sequence [encodeMoment notBefore, encodeMoment notAfter], subject.encode,
      key.encode]
    ++ if extensions.isEmpty then []
      else [Der.explicit 3 (Der.sequence (extensions.map Extension.encode))])

/-- The fault of a key that is too short for a digest. -/
def keyTooShort : Fault :=
  .of .value ("Digest or salt length too long for key size. Use a larger key or shorter salt "
    ++ "length if you are specifying a PSS salt")

/-- Build and sign what a description says, without naming the operation in faults. -/
def build (digest : Digest.Algorithm) (spec : Spec) (issuer subject : Rsa.KeyPair) :
    Except Fault Certificate := do
  let serial ← checkSerial spec.serial
  let notBefore ← checkBound "before" spec.validity.notBefore
  let notAfter ← checkBound "after" spec.validity.notAfter
  let pathLength ← checkPathLength spec.pathLength
  let algorithm ← checkAlgorithm digest
  let extensions ← extensionsFor pathLength
  let signed := signedPart serial algorithm spec.issuer notBefore notAfter spec.subject
    subject.publicKey extensions
  match Rsa.sign? issuer digest signed with
  | none => throw keyTooShort
  | some signature =>
    return {
      serial, extensions, signed, signature
      innerAlgorithm := algorithm
      issuer := spec.issuer
      notBefore := notBefore.truncate
      notAfter := notAfter.truncate
      subject := spec.subject
      key := some subject.publicKey
      outerAlgorithm := algorithm
      der := Der.sequence [signed, algorithm.encode, Der.bitString signature] }

/-- The fault of a key pair that is not there, asked for a part. -/
def missingPart (part : String) : Fault :=
  .of .attribute ("'NoneType' object has no attribute '" ++ part ++ "'")

/-- A result in which faults of the engine are failures to sign. -/
def asSigning (r : Except Fault α) : Except Fault α :=
  match r with
  | .ok a => .ok a
  | .error f =>
    if isEngineFault f.kind then .error (f.asFailure "certificate signing") else .error f

/-- Sign what a description says with the issuer's key. A subject that is missing is found out
    first; an issuer that is missing only when all else is in order. -/
def sign (digest : Digest.Algorithm) (spec : Spec) (issuer subject : Option Rsa.KeyPair) :
    Except Fault Certificate := do
  let some subject := subject | throw (missingPart "public_key")
  match issuer with
  | some issuer => asSigning (build digest spec issuer subject)
  | none => do
    let _ ← asSigning do
      let _ ← checkSerial spec.serial
      let _ ← checkBound "before" spec.validity.notBefore
      let _ ← checkBound "after" spec.validity.notAfter
      checkPathLength spec.pathLength
    throw (missingPart "private_key")

/-! ## The forge -/

/-- A forge: the settings that its windows follow, and the digest that it signs with. -/
structure Forge where
  settings : Settings
  /-- The digest under signatures. -/
  digest : Digest.Algorithm

namespace Forge

/-- A forge for settings. Its digest is found once, here. -/
def make (s : Settings) : Work Forge := do
  register
  return ⟨s, ← resolve s.signatureHash⟩

/-- The path length of a certificate at a distance from the end of its chain. -/
def pathLengthAt (distance : Datum) : Except Fault Datum := do
  if (← order ">" distance 0) = some .gt then
    match distance.int?, distance with
    | some i, _ => return .int (i - 1)
    | none, .real x => return .real (x.sub (.ofInt 1))
    | none, d => return d
  else return .none

def describe (f : Forge) (issuer subject : Option Rsa.KeyPair) (valid distance : Datum) :
    Work Spec := do
  let some issuer := issuer
    | Work.fail (.of .value "issuer_key_pair and subject_key_pair are required")
  let some subject := subject
    | Work.fail (.of .value "issuer_key_pair and subject_key_pair are required")
  if (← Work.ofExcept (order "<" distance 0)) = some .lt then
    Work.fail (.of .value "distance_from_leaf must be a non-negative integer")
  let serial ← Work.drawSerial
  let now ← Work.readClock
  let validity ← Work.ofExcept (Window.ofSettings f.settings valid.truthy now)
  let pathLength ← Work.ofExcept (pathLengthAt distance)
  return ⟨keyName issuer.publicKey, keyName subject.publicKey, serial, validity, pathLength⟩

def issue (f : Forge) (issuer subject : Option Rsa.KeyPair) (valid distance : Datum) :
    Work Certificate := do
  let spec ← f.describe issuer subject valid distance
  let certificate ← Work.ofExcept (sign f.digest spec issuer subject)
  let serial ← Work.ofExcept spec.serial.plain
  let distance ← Work.ofExcept distance.plain
  let valid ← Work.ofExcept valid.plain
  Work.note (.of .debug forgeLogger ("Issued certificate serial=" ++ serial
    ++ " distance_from_leaf=" ++ distance ++ " valid=" ++ valid))
  return certificate

end Forge

end CertMint.Mint
