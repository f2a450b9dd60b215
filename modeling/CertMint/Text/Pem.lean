import CertMint.Text.Base64

/-! # PEM

Octets as a block of text: a line that opens the block, the octets in Base64 on lines of 64
characters, and a line that closes it.
-/

namespace CertMint.Text.Pem

/-- Characters on lines of `width`, the last of which may be shorter. Each line has its line end. -/
def wrap (width : Nat) (cs : List Char) : List Char :=
  if _h : cs = [] ∨ width = 0 then []
  else cs.take width ++ '\n' :: wrap width (cs.drop width)
termination_by cs.length
decreasing_by
  have : 0 < cs.length := List.length_pos_iff.mpr (fun e => _h (Or.inl e))
  simp only [List.length_drop]
  omega

def lineLength : Nat := 64

def encode (label : String) (octets : List UInt8) : String :=
  "-----BEGIN " ++ label ++ "-----\n"
  ++ String.ofList (wrap lineLength (Base64.encode octets))
  ++ "-----END " ++ label ++ "-----\n"

end CertMint.Text.Pem
