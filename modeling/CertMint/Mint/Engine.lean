import CertMint.Mint.Workshop
import CertMint.Text.LetterCase

/-! # The engine's registration

The engine is registered once, before the first component that needs it is made; while it is
registered, registering again does nothing. Digest algorithms are found by name and asked of the
engine.
-/

namespace CertMint.Mint

def engineLogger : String := "certfixtures.security.engine"

/-- The kinds of fault with which an engine can be missing. -/
def isMissingEngine (k : Fault.Kind) : Bool := k.isUnsupported || k.isImporting

/-- Register the engine, unless it is registered. -/
def register : Work Unit := do
  if (← get).registered then return
  let engine ← Work.wrapping isMissingEngine (Fault.asFailure "engine registration")
    (do Work.ofExcept (← get).engine)
  Work.note (.of .debug engineLogger ("Registered cryptographic engine: " ++ engine.version))
  Work.change fun w => { w with registered := true }

/-- The names of digest algorithms that need to be told how long a digest is to be. -/
def sizedNames : List String := ["SHAKE128", "SHAKE256"]

/-- The digest algorithm with a name, in whatever case. -/
def algorithmOf (name : String) : Except Fault Digest.Algorithm :=
  let key := Text.upper name
  if sizedNames.contains key then
    .error (.of .type (key ++ ".__init__() missing 1 required positional argument: 'digest_size'"))
  else match Digest.Algorithm.ofKey? key with
    | some a => .ok a
    | none => .error (Fault.operationFailed "hash resolution"
        ("unknown hash algorithm " ++ Text.quoted name))

/-- The name of a digest algorithm in a field of settings. -/
def algorithmName : Datum → Except Fault String
  | .text s => .ok s
  | .octets _ => .error (.of .type "attribute name must be string, not 'bytes'")
  | d => .error (.of .attribute ("'" ++ d.kindName ++ "' object has no attribute 'upper'"))

/-- The digest algorithm with a name, if the engine has it. -/
def resolve (name : Datum) : Work Digest.Algorithm := do
  let name ← Work.ofExcept (algorithmName name)
  let algorithm ← Work.ofExcept (algorithmOf name)
  let engine ← Work.ofExcept (← get).engine
  if engine.supports algorithm then return algorithm
  else Work.fail (Fault.operationFailed "hash resolution"
    ("hash algorithm " ++ Text.quoted name ++ " is not supported"))

end CertMint.Mint
