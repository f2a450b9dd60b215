import CertMint.Fault

/-! # Log notes

What the program itself logs: a level, the name it is logged under, a message, and possibly data and
a fault.
-/

namespace CertMint.Log

/-- The levels that notes have. -/
inductive Level where
  | debug
  | info
  | warning
  | error
  deriving DecidableEq, Repr

namespace Level

/-- The rank of a level among all levels. -/
def rank : Level → Int
  | .debug => 10
  | .info => 20
  | .warning => 30
  | .error => 40

end Level

/-- Something logged. -/
structure Note where
  level : Level
  logger : String
  message : String
  extra : Option Datum := none
  fault : Option Fault := none

def Note.of (level : Level) (logger message : String) : Note := { level, logger, message }

end CertMint.Log
