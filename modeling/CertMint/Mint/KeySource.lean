import CertMint.Mint.Workshop
import CertMint.Settings.Basic

/-! # Fresh key pairs

The engine is asked for a key pair with the key size and the public exponent of the settings. It
looks at both before it makes one, at the exponent first. Both have to be integers, and the size may
not be larger than what makes the key pairs is able to.
-/

namespace CertMint.Mint

/-- The name under which key pairs are noted. -/
def keyLogger : String := "certfixtures.security.key_pair_source"

/-- The kinds of fault that the engine answers wrong requests with. -/
def isEngineFault (k : Fault.Kind) : Bool := k.isValue || k.isType || k.isUnsupported

/-- How a datum compares with an integer, where an order between them is needed. -/
def order (symbol : String) (d : Datum) (i : Int) : Except Fault (Option Ordering) :=
  match d.compareInt? i with
  | some o => .ok o
  | none => .error (.of .type ("'" ++ symbol ++ "' not supported between instances of '"
      ++ d.kindName ++ "' and 'int'"))

/-- The integer that a datum is; a truth value is none here. -/
def integer : Datum → Except Fault Int
  | .int i => .ok i
  | d => .error (.of .type ("'" ++ d.kindName ++ "' object cannot be interpreted as an integer"))

/-- Refuse a request that the engine, or what makes its key pairs, does not take. -/
def checkRequest (maker : KeyMaker) (size exponent : Datum) : Except Fault Unit := do
  if !Settings.publicExponents.any fun e => exponent.same (.int e) then
    throw (.of .value ("public_exponent must be either 3 (for legacy compatibility) or 65537. "
      ++ "Almost everyone should choose 65537 here!"))
  if (← order "<" size 1024) = some .lt then
    throw (.of .value "key_size must be at least 1024-bits.")
  let _ ← integer exponent
  let bits ← integer size
  if maker.largest.val < bits then throw (maker.refusal bits)

def request (size exponent : Datum) : Work Rsa.KeyPair := do
  Work.change fun w => { w with requests := w.requests ++ [(size, exponent)] }
  Work.ofExcept (checkRequest (← Work.maker) size exponent)
  Work.drawKey

def generate (s : Settings) : Work Rsa.KeyPair := do
  let pair ← Work.wrapping isEngineFault (Fault.asFailure "key generation")
    (request s.keySize s.publicExponent)
  let size ← Work.ofExcept s.keySize.plain
  Work.note (.of .debug keyLogger ("Generated " ++ size ++ "-bit RSA key pair"))
  return pair

end CertMint.Mint
