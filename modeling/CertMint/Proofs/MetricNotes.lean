import CertMint.Proofs.Entries
import CertMint.Proofs.Measuring
import CertMint.Proofs.Success

/-! # What the note of a metric tells

Measured work leaves one metric and one note of it. The data that are logged with the note are the facts of the
metric, over which the data of the caller are put. So the note has everything that the caller gave, and it tells
the facts of the metric exactly if the caller gave nothing else under their names.
-/

namespace CertMint

open Keyed

namespace Metric

/-- What is logged of a metric, under the names that it has there. -/
def facts (m : Metric) : List (String × Datum) :=
  [("operation", m.operation), ("duration_ms", .real m.duration), ("success", .bool m.success),
   ("error_message", Datum.ofText? m.message)]

/-- The data of a caller who gives entries under names, or none. -/
def given : Option (List (String × Datum)) → Datum
  | none => .none
  | some entries => .named entries

variable {m : Metric} {caller : Option (List (String × Datum))} {logged : Datum}

theorem logged_eq (extra : m.extra = given caller) :
    m.logged = .ok (.named (putAll (caller.getD []) m.facts)) := by
  cases caller with
  | none => simp [logged, extra, given, Datum.truthy, facts, Datum.named, putAll]
  | some entries =>
      have put_ := Datum.foldl_insertEntry entries m.facts
      simp only [logged, extra, given, Datum.named, Option.getD_some]
      exact congrArg (fun entries => Except.ok (Datum.record entries)) put_

/-- Under every name there is what the caller gave, or else the fact of the metric. -/
theorem at?_logged (once : (keys (caller.getD [])).Nodup) (extra : m.extra = given caller)
    (logs : m.logged = .ok logged) (name : String) :
    logged.at? name = (get? name (caller.getD [])).or (get? name m.facts) := by
  rw [logged_eq extra] at logs
  obtain rfl := Except.ok.inj logs
  rw [Datum.at?_named, get?_putAll once]

/-- The facts are told exactly if the caller gave nothing else under their names. -/
theorem tells_facts_iff (once : (keys (caller.getD [])).Nodup) (extra : m.extra = given caller)
    (logs : m.logged = .ok logged) :
    (∀ name ∈ keys m.facts, logged.at? name = get? name m.facts) ↔
      ∀ name ∈ keys m.facts, ∀ d, (name, d) ∈ caller.getD [] → get? name m.facts = some d := by
  apply forall₂_congr
  intro name _
  simp only [at?_logged once extra logs, ← get?_eq_some_iff once]
  cases get? name (caller.getD []) with
  | none => simp
  | some d => simp [eq_comm]

end Metric

namespace Mint

variable {α : Type}

theorem callerData_given (caller : Option (List (String × Datum))) :
    callerData (caller.map Datum.underNames) = Metric.given caller := by
  cases caller <;> rfl

/-- Measured work adds one metric and one note to those of the work, however the work ends. The note is one for
    debugging. It has, under every name, what the caller gave or else the fact of the metric; so all that the
    caller gave is in it, and it agrees with the metric exactly if the caller gave nothing else under the names
    of the metric's own facts. -/
theorem note_tells_metric_iff (operation : String) (caller : Option (List (String × Datum))) (body : Work α)
    (w : Workshop) (once : (keys (caller.getD [])).Nodup) :
    ∃ m logged,
      ((measured (.text operation) (Metric.given caller) body : Work α).perform w).2.metrics =
        (body.perform (started w)).2.metrics ++ [m] ∧
      ((measured (.text operation) (Metric.given caller) body : Work α).perform w).2.notes =
        (body.perform (started w)).2.notes ++ [metricNote operation logged] ∧
      m = metricOf operation (Metric.given caller) (stopwatch w) (fault? (body.perform (started w)).1)
        (body.perform (started w)).2 ∧
      (∀ name, logged.at? name = (get? name (caller.getD [])).or (get? name m.facts)) ∧
      ((∀ name ∈ keys m.facts, logged.at? name = get? name m.facts) ↔
        ∀ name ∈ keys m.facts, ∀ d, (name, d) ∈ caller.getD [] → get? name m.facts = some d) := by
  obtain ⟨m, logged, metric, logs, run⟩ :=
    exists_perform_measured operation (caller.map Datum.underNames) body w
  rw [callerData_given] at metric run
  have extra : m.extra = Metric.given caller := by
    rw [metric]
    rfl
  refine ⟨m, logged, ?_, ?_, metric, Metric.at?_logged once extra logs,
    Metric.tells_facts_iff once extra logs⟩
  · rw [run]
    rfl
  · rw [run]
    rfl

/-! ### Data of a caller -/

/-- A caller who says that all went well. -/
def sanguineData : List (String × Datum) := [("batch", .int 7), ("success", .bool true)]

def failingWork : Work Unit := Work.fail (.of .runtime "no")

/-- Work that goes well leaves a note that agrees with its metric and has what else the caller gave. -/
theorem note_tells_metric_iff_sanguine :
    ∃ m logged,
      ((measured (.text "op") (.named sanguineData) (pure ()) : Work Unit).perform stockedWorkshop).2.metrics =
        [m] ∧
      ((measured (.text "op") (.named sanguineData) (pure ()) : Work Unit).perform stockedWorkshop).2.notes =
        [metricNote "op" logged] ∧
      logged.at? "batch" = some (.int 7) ∧ ∀ name ∈ keys m.facts, logged.at? name = get? name m.facts := by
  obtain ⟨m, logged, metrics, notes, metric, under, agrees⟩ :=
    note_tells_metric_iff "op" (some sanguineData) (pure ()) stockedWorkshop (by decide)
  refine ⟨m, logged, metrics, notes, under "batch", agrees.mpr ?_⟩
  intro name member d gave
  rw [metric] at member ⊢
  simp only [sanguineData, Option.getD_some, List.mem_cons, Prod.mk.injEq, List.not_mem_nil, or_false] at gave
  rcases gave with ⟨rfl, -⟩ | ⟨rfl, rfl⟩
  · exact absurd member (by decide)
  · rfl

/-- Work that fails leaves a metric of a failure and a note of a success, if the caller says so. -/
theorem failure_told_as_success :
    ∃ m logged,
      ((measured (.text "op") (.named sanguineData) failingWork : Work Unit).perform stockedWorkshop).2.metrics =
        [m] ∧
      ((measured (.text "op") (.named sanguineData) failingWork : Work Unit).perform stockedWorkshop).2.notes =
        [metricNote "op" logged] ∧
      m.success = false ∧ logged.at? "success" = some (.bool true) := by
  obtain ⟨m, logged, metric, logs, run⟩ :=
    exists_perform_measured "op" (some (Datum.underNames sanguineData)) failingWork stockedWorkshop
  have same : (measured (.text "op") (.named sanguineData) failingWork : Work Unit).perform stockedWorkshop = _ :=
    run
  have extra : m.extra = Metric.given (some sanguineData) := by
    rw [metric]
    rfl
  refine ⟨m, logged, ?_, ?_, ?_, ?_⟩
  · rw [same]
    rfl
  · rw [same]
    rfl
  · rw [metric]
    rfl
  · rw [Metric.at?_logged (by decide) extra logs]
    rfl

end Mint

end CertMint
