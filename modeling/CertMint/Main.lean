import CertMint.CommandLine.Supplies

/-! # The program

Runs the command line. What a run draws on is read from the first line of standard input, and only
when the command line makes a request.
-/

namespace CertMint.CommandLine

/-- The first line of standard input, where a command line makes a request. -/
def readSupplies (texts : List String) : IO Supplies := do
  match Request.ofTexts texts with
  | .error _ => return {}
  | .ok _ => return .ofLine (← (← IO.getStdin).getLine)

/-- The status with which the program ends. A fault that nothing handled is reported first. -/
def finish : Ending → IO UInt32
  | .status code | .reading code => return code.toUInt32
  | .fault f => do
    IO.eprint (String.join (f.report true))
    return 1

end CertMint.CommandLine

open CertMint.CommandLine in
def main (texts : List String) : IO UInt32 := do
  let supplies ← readSupplies texts
  let r := run texts supplies.outlets supplies.workshop
  IO.print r.output
  IO.eprint (String.join r.outlets.console.reverse)
  finish r.ending
