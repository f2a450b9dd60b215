import CertMint.Mint.Inspection

/-! # Fixtures

The seven kinds of fixture that tests ask for, and the facade that makes them. The facade's settings
can be changed while it is in use: keys and windows follow them at once, the digest under signatures
only when the facade is wired anew.
-/

namespace CertMint.Mint

open X509

/-- The kinds of fixture. -/
inductive Scenario where
  | validChain
  /-- A chain in which the certificate above the end is expired. -/
  | expiredIntermediateChain
  | expiredRootChain
  | valid
  | expired
  | selfSigned
  | expiredSelfSigned
  deriving DecidableEq, Repr

namespace Scenario

/-- The kinds of fixture in the order of their names. -/
def all : List Scenario :=
  [.expired, .expiredIntermediateChain, .expiredRootChain, .expiredSelfSigned, .selfSigned, .valid,
   .validChain]

def name : Scenario → String
  | .validChain => "valid-chain"
  | .expiredIntermediateChain => "expired-intermediate-chain"
  | .expiredRootChain => "expired-root-chain"
  | .valid => "valid"
  | .expired => "expired"
  | .selfSigned => "self-signed"
  | .expiredSelfSigned => "expired-self-signed"

end Scenario

/-- A fixture. -/
inductive Fixture where
  | certificate (c : Certificate)
  | chain (c : Chain)

namespace Fixture

/-- The certificates of a fixture, the root last. -/
def certificates : Fixture → List Certificate
  | .certificate c => [c]
  | .chain c => c.certificates

end Fixture

/-- The position of the certificate above the end. -/
def intermediatePosition : Int := 1

def rootPosition : Int := chainLength - 1

namespace Builder

/-- A builder for settings: the engine is registered, and the digest of the settings is found. -/
def make (s : Settings) (measures : Bool) : Work Builder := do
  register
  return ⟨s, ← Forge.make s, measures⟩

def fixture (b : Builder) : Scenario → Work Fixture
  | .validChain => .chain <$> b.chain .none
  | .expiredIntermediateChain => .chain <$> b.chain (.int intermediatePosition)
  | .expiredRootChain => .chain <$> b.chain (.int rootPosition)
  | .valid => .certificate <$> b.single (.bool true) (.bool false)
  | .expired => .certificate <$> b.single (.bool false) (.bool false)
  | .selfSigned => .certificate <$> b.single (.bool true) (.bool true)
  | .expiredSelfSigned => .certificate <$> b.single (.bool false) (.bool true)

end Builder

/-- The facade: its settings as they are now, and the digest that it was wired with. -/
structure Facade where
  settings : Settings
  /-- The digest under signatures. -/
  digest : Digest.Algorithm
  /-- Whether building is measured. -/
  measures : Bool

namespace Facade

def wire (s : Settings) (measures : Bool) : Work Facade := do
  let b ← Builder.make s measures
  return ⟨s, b.forge.digest, measures⟩

/-- The builder of a facade, which follows its settings as they are now. -/
def builder (f : Facade) : Builder := ⟨f.settings, ⟨f.settings, f.digest⟩, f.measures⟩

/-- Put a datum into a field of the settings. -/
def assign (f : Facade) (field : Settings.Field) (d : Datum) : Facade :=
  { f with settings := f.settings.set field d }

/-- Wire a facade anew, with its settings as they are now. -/
def rewire (f : Facade) : Work Facade := wire f.settings f.measures

def generate (f : Facade) (s : Scenario) : Work Fixture := f.builder.fixture s

end Facade

/-- Make a fixture with a facade of its own, which measures nothing. -/
def fresh (settings : Settings) (s : Scenario) : Work Fixture := do
  (← Facade.wire settings false).generate s

end CertMint.Mint
