import CertMint.Log.Note
import CertMint.Metric
import CertMint.Rsa

/-! # The workshop

Everything that minting draws on and leaves behind: a supply of keys and one of serial numbers, which
are used up in order; what makes the keys, and how large it makes them; a clock that is read for each
certificate; a stopwatch; the cryptographic engine; and what was asked of the engine, noted and measured.
Work on it can fault, and what was drawn, noted and measured before a fault stays so.
-/

namespace CertMint

/-- The cryptographic engine. -/
structure Engine where
  /-- What the engine says of its version. -/
  version : String
  supports : Digest.Algorithm → Bool

/-- What makes key pairs for the engine. -/
structure KeyMaker where
  /-- The size, in bits, of the largest key pair that it makes. -/
  largest : Integer.Short
  /-- What it answers to a request for a larger one. -/
  refusal : Int → Fault

/-- The maker that has 32 bits for the size. -/
def KeyMaker.ofWord : KeyMaker where
  largest := .ofWord 0xffffffff
  refusal _ := .of .overflow "out of range integral type conversion attempted"

/-- What minting draws on and leaves behind. -/
structure Workshop where
  /-- The key pairs to come; some of them cannot be made. -/
  keys : List (Except Fault Rsa.KeyPair)
  /-- What makes them. -/
  maker : KeyMaker := CertMint.KeyMaker.ofWord
  /-- The serial numbers to come; some of them cannot be drawn. -/
  serials : List (Except Fault Datum)
  /-- What the clock shows each time it is read, if it shows a moment. -/
  clock : Nat → Option Moment
  readings : Nat := 0
  /-- The seconds that the stopwatch shows; the last of them for ever. -/
  seconds : List Binary64
  stamp : Moment
  /-- The engine, or why there is none. -/
  engine : Except Fault Engine
  registered : Bool
  /-- The key sizes and public exponents that keys were asked for with, oldest first. -/
  requests : List (Datum × Datum) := []
  /-- What was noted, oldest first. -/
  notes : List Log.Note := []
  /-- What was measured, oldest first. -/
  metrics : List Metric := []

/-- Work in a workshop. -/
abbrev Work (α : Type) : Type := ExceptT Fault (StateM Workshop) α

namespace Work

def perform (work : Work α) (w : Workshop) : Except Fault α × Workshop := work.run w

def fail (f : Fault) : Work α := throw f

def ofExcept (r : Except Fault α) : Work α :=
  match r with
  | .ok a => pure a
  | .error f => throw f

def change (f : Workshop → Workshop) : Work Unit := modify f

def note (n : Log.Note) : Work Unit := change fun w => { w with notes := w.notes ++ [n] }

def maker : Work KeyMaker := return (← get).maker

/-- The fault of a moment outside the years 1 to 9999. -/
def outOfYears : Fault := .of .overflow "date value out of range"

def readClock : Work Moment := do
  let w ← get
  change fun w => { w with readings := w.readings + 1 }
  match w.clock w.readings with
  | some m => return m
  | none => fail outOfYears

def readSeconds : Work Binary64 := do
  match (← get).seconds with
  | [] => return .zero false
  | [t] => return t
  | t :: rest =>
    change fun w => { w with seconds := rest }
    return t

def drawSerial : Work Datum := do
  match (← get).serials with
  | [] => fail (.of .runtime "out of serials")
  | next :: rest =>
    change fun w => { w with serials := rest }
    ofExcept next

def drawKey : Work Rsa.KeyPair := do
  match (← get).keys with
  | [] => fail (.of .value "out of keys")
  | next :: rest =>
    change fun w => { w with keys := rest }
    ofExcept next

/-- Do work, and turn its faults of some kinds into other ones. -/
def wrapping (kinds : Fault.Kind → Bool) (f : Fault → Fault) (work : Work α) : Work α :=
  tryCatch work fun e => if kinds e.kind then fail (f e) else fail e

end Work

end CertMint
