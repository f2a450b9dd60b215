import CertMint.Mint.Forge
import CertMint.Mint.Measure
import CertMint.Text.Pem

/-! # Chains

A chain is four certificates, from the end of the chain to its root. Each is issued by the next one,
and the root by itself. One of them may be given the expired window.
-/

namespace CertMint.Mint

open X509

/-- The name under which finished chains are noted. -/
def chainLogger : String := "certfixtures.security.chain_builder"

def chainLength : Nat := 4

/-- A chain. -/
structure Chain where
  /-- The certificates, the root last. -/
  certificates : List Certificate
  length_eq : certificates.length = chainLength

namespace Chain

/-- The chain of some certificates, if they are four. -/
def of (certificates : List Certificate) : Except Fault Chain :=
  if h : certificates.length = chainLength then .ok ⟨certificates, h⟩
  else .error (.of .value ("A certificate chain holds exactly " ++ toString chainLength
    ++ " certificates, got " ++ toString certificates.length))

def at_ (c : Chain) (i : Fin 4) : Certificate :=
  c.certificates.get ⟨i.val, by rw [c.length_eq]; exact i.isLt⟩

def leaf (c : Chain) : Certificate := c.at_ 0

def root (c : Chain) : Certificate := c.at_ 3

/-- The certificate at an index; negative indices count from the root. -/
def get (c : Chain) (index : Datum) : Except Fault Certificate :=
  match index.int? with
  | none => .error (.of .type ("tuple indices must be integers or slices, not " ++ index.kindName))
  | some i =>
    if i < -9223372036854775808 ∨ 9223372036854775807 < i then
      .error (.of .index "cannot fit 'int' into an index-sized integer")
    else
      let j := if i < 0 then i + c.certificates.length else i
      if j < 0 then .error (.of .index "tuple index out of range")
      else match c.certificates[j.toNat]? with
        | some certificate => .ok certificate
        | none => .error (.of .index "tuple index out of range")

end Chain

def pem (c : Certificate) : String := Text.Pem.encode "CERTIFICATE" c.der

/-- The certificates of a chain in PEM, one after the other. -/
def Chain.pem (c : Chain) : String := String.join (c.certificates.map Mint.pem)

/-- What builds chains: the settings that keys follow, a forge, and whether building is measured. -/
structure Builder where
  /-- The settings that keys follow. -/
  settings : Settings
  forge : Forge
  /-- Whether building is measured. -/
  measures : Bool

namespace Builder

def checkPosition (position : Datum) : Except Fault Unit :=
  match position with
  | .none => .ok ()
  | d => do
    let inside ← match d.compareInt? 0 with
      | some o => pure (o = some .gt || o = some .eq)
      | none => .error (.of .type ("'<=' not supported between instances of 'int' and '"
          ++ d.kindName ++ "'"))
    if inside && (d.compareInt? chainLength).getD none = some .lt then .ok ()
    else .error (.of .value
      ("invalid_position must be between 0 and " ++ toString (chainLength - 1)))

/-- The certificates at a position and below it, the lowest first. The key pairs are those of the
    certificate's issuer and of its subject. -/
def certificatesFrom (b : Builder) (invalid : Datum) (issuer subject : Rsa.KeyPair) :
    Nat → Work (List Certificate)
  | 0 => do
    let valid := !Datum.same (.int 0) invalid
    return [← b.forge.issue (some issuer) (some subject) (.bool valid) (.int 0)]
  | position + 1 => do
    let valid := !Datum.same (.int (position + 1)) invalid
    let certificate ←
      b.forge.issue (some issuer) (some subject) (.bool valid) (.int (position + 1))
    let next ← generate b.settings
    let below ← b.certificatesFrom invalid subject next position
    return below ++ [certificate]

/-- Build a chain in which the certificate at a position has the expired window. -/
def chain (b : Builder) (invalid : Datum) : Work Chain := do
  Work.ofExcept (checkPosition invalid)
  let certificates ← measuredIf b.measures "build_chain" [("invalid_position", invalid)] do
    let rootPair ← generate b.settings
    b.certificatesFrom invalid rootPair rootPair (chainLength - 1)
  let shown ← Work.ofExcept invalid.plain
  Work.note (.of .info chainLogger ("Built certificate chain (invalid position: " ++ shown ++ ")"))
  Work.ofExcept (Chain.of certificates)

/-- Build one certificate for the end of a chain, signed with its own key or with a fresh one. -/
def single (b : Builder) (valid selfSigned : Datum) : Work Certificate := do
  let certificate ← measuredIf b.measures "build_single_certificate"
      [("is_valid", valid), ("is_self_signed", selfSigned)] do
    let subject ← generate b.settings
    let issuer ← if selfSigned.truthy then pure subject else generate b.settings
    b.forge.issue (some issuer) (some subject) valid (.int 0)
  let shownValid ← Work.ofExcept valid.plain
  let shownSelf ← Work.ofExcept selfSigned.plain
  Work.note (.of .info chainLogger ("Built single certificate (valid: " ++ shownValid
    ++ ", self-signed: " ++ shownSelf ++ ")"))
  return certificate

end Builder

end CertMint.Mint
