import CertMint.Mint.Chain

/-! # Inspection

What can be said of certificates without the keys that signed them: a description of one, whether one
was issued by another, and whether a chain holds together.
-/

namespace CertMint.Mint

open X509

/-- The name under which rejected signatures are noted. -/
def inspectionLogger : String := "certfixtures.security.inspection"

/-- A description of a certificate. -/
structure Description where
  subject : String
  issuer : String
  serial : String
  notBefore : Moment
  notAfter : Moment
  current : Bool
  /-- Whether issuer and subject have one name. -/
  selfSigned : Bool
  pathLength : Option Nat
  /-- The fingerprint in hexadecimal. -/
  fingerprint : String

def describeAt (c : Certificate) (now : Moment) : Except Fault Description := do
  let subject ← c.subject.text
  let issuer ← c.issuer.text
  let current ← Window.between c.notBefore c.notAfter now
  let pathLength ← c.pathLength
  return {
    subject, issuer, current, pathLength
    serial := toString c.serial
    notBefore := c.notBefore
    notAfter := c.notAfter
    selfSigned := c.issuer.same c.subject
    fingerprint := Text.hex c.fingerprint }

/-- Describe a certificate as of a moment, or as of now. -/
def inspect (c : Certificate) (now : Option Moment) : Work Description := do
  let now ← match now with
    | some m => pure m
    | none => Work.readClock
  Work.ofExcept (describeAt c now)

def issuedBy (c issuer : Certificate) : Work Bool := do
  match c.rejection? issuer with
  | none => return true
  | some r =>
    Work.note (.of .debug inspectionLogger ("Signature verification failed: " ++ r.message))
    return false

/-- Whether each certificate of a list was issued by the next one. -/
def eachIssuedByNext : List Certificate → Work Bool
  | c :: issuer :: rest => do
    if ← issuedBy c issuer then eachIssuedByNext (issuer :: rest) else return false
  | _ => return true

/-- Whether each certificate of a chain was issued by the next one, and the root by itself. -/
def coherent (c : Chain) : Work Bool := do
  if ← eachIssuedByNext c.certificates then issuedBy c.root c.root else return false

end CertMint.Mint
