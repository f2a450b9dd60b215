import CertMint.Fault

/-! # Metrics

What is kept of an operation that was measured.
-/

namespace CertMint

/-- A measured operation. -/
structure Metric where
  operation : Datum
  /-- How long it took, in milliseconds. -/
  duration : Binary64
  stamp : String
  success : Bool
  message : Option String
  extra : Datum

namespace Metric

/-- The metrics of an operation, or all of them when none is named. -/
def select (operation : Datum) (metrics : List Metric) : List Metric :=
  if operation.truthy then metrics.filter fun m => m.operation.same operation else metrics

/-- The data that are logged with a metric: its own, and those that the caller gave, which win over
    the metric's own. -/
def logged (m : Metric) : Except Fault Datum :=
  let own : List (Datum × Datum) :=
    [(.text "operation", m.operation), (.text "duration_ms", .real m.duration),
     (.text "success", .bool m.success), (.text "error_message", Datum.ofText? m.message)]
  match m.extra with
  | .record entries => .ok (.record (entries.foldl (fun done e => Datum.insertEntry e.1 e.2 done) own))
  | d =>
    if d.truthy then .error (.of .type ("'" ++ d.kindName ++ "' object is not a mapping"))
    else .ok (.record own)

end Metric

end CertMint
