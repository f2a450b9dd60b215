import CertMint.Mint.Workshop

/-! # Measured work

Work that leaves a metric and a note behind when it ends, whether or not with a fault. The fault goes
on; a request to end the program is no fault and counts as success.
-/

namespace CertMint.Mint

def measureLogger : String := "certfixtures.services.logging_service"

def milliseconds (start stop : Binary64) : Binary64 := (stop.sub start).mul (.ofInt 1000)

/-- Record that an operation ended, with the fault that it ended with. -/
def recordEnd (operation extra : Datum) (start : Binary64) (fault : Option Fault) : Work Unit := do
  let stop ← Work.readSeconds
  let counted := fault.filter (!·.kind.isExit)
  let metric : Metric := {
    operation, extra
    duration := milliseconds start stop
    stamp := ({ (← get).stamp with offset := none } : Moment).iso
    success := counted.isNone
    message := counted.map Fault.message }
  Work.change fun w => { w with metrics := w.metrics ++ [metric] }
  let name ← Work.ofExcept operation.plain
  let logged ← Work.ofExcept metric.logged
  Work.note {
    level := .debug
    logger := measureLogger
    message := "Performance metric: " ++ name
    extra := some logged }

/-- Do work and measure it. The work may be more than work in the workshop, as long as it includes
    that and has the same faults. -/
def measured {m : Type → Type} [Monad m] [MonadLiftT Work m] [MonadExceptOf Fault m]
    (operation extra : Datum) (work : m α) : m α := do
  let start ← liftM Work.readSeconds
  let result ← tryCatchThe Fault work fun f => do
    let _ ← liftM (recordEnd operation extra start (some f))
    throwThe Fault f
  let _ ← liftM (recordEnd operation extra start none)
  return result

/-- Do work, and measure it if that is wanted. -/
def measuredIf (wanted : Bool) (operation : String) (extra : List (String × Datum))
    (work : Work α) : Work α :=
  if wanted then measured (.text operation) (.named extra) work else work

end CertMint.Mint
