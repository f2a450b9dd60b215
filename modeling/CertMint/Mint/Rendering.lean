import CertMint.Mint.Fixtures

/-! # Rendering

A fixture as text: in PEM, or a line of description for each certificate.
-/

namespace CertMint.Mint

open X509

def truthText (b : Bool) : String := if b then "True" else "False"

/-- The line that describes the certificate at a position. -/
def Description.line (d : Description) (position : Nat) : String :=
  "[" ++ toString position ++ "] subject=" ++ d.subject ++ " issuer=" ++ d.issuer
  ++ " serial=" ++ d.serial ++ " not_before=" ++ d.notBefore.iso ++ " not_after=" ++ d.notAfter.iso
  ++ " valid=" ++ truthText d.current ++ " self_signed=" ++ truthText d.selfSigned
  ++ " path_length=" ++ (d.pathLength.map toString).getD "None"

/-- The lines that describe certificates from a position on. Each is described as of its own reading
    of the clock. -/
def describeLines (position : Nat) : List Certificate → Work (List String)
  | [] => return []
  | c :: rest => do
    let d ← inspect c none
    return d.line position :: (← describeLines (position + 1) rest)

def render (f : Fixture) (describe : Bool) : Work String := do
  if describe then
    return "\n".intercalate (← describeLines 0 f.certificates) ++ "\n"
  else
    return String.join (f.certificates.map pem)

end CertMint.Mint
