import CertMint.Mint.Measure
import CertMint.Proofs.Ledger
import CertMint.Proofs.Steadiness

/-! # Measured work is the work

Measuring takes nothing from the supplies, does not read the clock and issues nothing. It reads the
stopwatch before the work and after it, and then writes down a metric and a note of it. Measured work ends
as the work does.
-/

namespace CertMint.Mint

variable {α : Type} {w w' : Workshop}

/-! ## Stopwatch and metrics -/

/-- What the stopwatch shows next. -/
def stopwatch (w : Workshop) : Binary64 := w.seconds.headD (.zero false)

/-- The stopwatch after a reading. Its last number stays. -/
def advanced : List Binary64 → List Binary64
  | _ :: t :: rest => t :: rest
  | ts => ts

/-- The workshop after a reading of its stopwatch. -/
def started (w : Workshop) : Workshop := w.refit (advanced w.seconds) w.metrics w.notes

theorem perform_readSeconds (w : Workshop) :
    Work.readSeconds.perform w = (.ok (stopwatch w), started w) := by
  simp only [Work.readSeconds, Work.perform_bind, Work.perform_get, stopwatch, started]
  have kept {ts : List Binary64} (seconds : w.seconds = ts) : w = w.refit ts w.metrics w.notes := by
    rw [← seconds, Workshop.refit_self]
  rcases seconds : w.seconds with _ | ⟨t, _ | ⟨t', rest⟩⟩
  · exact congrArg (Prod.mk _) (kept seconds)
  · exact congrArg (Prod.mk _) (kept seconds)
  · rfl

/-- The data that a caller gives with an operation: none, or entries. -/
def callerData : Option (List (Datum × Datum)) → Datum
  | none => .none
  | some entries => .record entries

/-- The fault that work ended with. -/
def thrown? : Except Fault α → Option Fault
  | .ok _ => none
  | .error f => some f

/-- The fault that work ended with, unless it is a request to end the program. -/
def fault? (r : Except Fault α) : Option Fault := (thrown? r).filter (!·.kind.isExit)

/-- The metric of an operation that ends now, and was started when the stopwatch showed `start`. -/
def metricOf (operation : String) (extra : Datum) (start : Binary64) (fault : Option Fault)
    (w : Workshop) : Metric where
  operation := .text operation
  duration := milliseconds start (stopwatch w)
  stamp := ({ w.stamp with offset := none } : Moment).iso
  success := fault.isNone
  message := fault.map Fault.message
  extra := extra

/-- The note of a metric with the data that are logged with it. -/
def metricNote (operation : String) (logged : Datum) : Log.Note where
  level := .debug
  logger := measureLogger
  message := "Performance metric: " ++ operation
  extra := some logged

/-- A metric and its note are written down. -/
def recorded (w : Workshop) (m : Metric) (n : Log.Note) : Workshop :=
  (started w).refit (started w).seconds (w.metrics ++ [m]) (w.notes ++ [n])

theorem exists_logged {m : Metric} {extra : Option (List (Datum × Datum))} (h : m.extra = callerData extra) :
    ∃ logged, m.logged = .ok logged := by
  cases extra with
  | none => exact ⟨_, by rw [Metric.logged, h]; rfl⟩
  | some entries => exact ⟨_, by rw [Metric.logged, h]; rfl⟩

/-- Recording the end of an operation does not fault, if the operation has a name and its data are entries
    or none. -/
theorem perform_recordEnd {operation : String} {extra : Option (List (Datum × Datum))} {start : Binary64}
    {fault : Option Fault} {logged : Datum} (w : Workshop)
    (h : (metricOf operation (callerData extra) start (fault.filter (!·.kind.isExit)) w).logged =
      .ok logged) :
    (recordEnd (.text operation) (callerData extra) start fault).perform w =
      (.ok (), recorded w (metricOf operation (callerData extra) start (fault.filter (!·.kind.isExit)) w)
        (metricNote operation logged)) := by
  have name : (Datum.text operation).plain = .ok operation := rfl
  have metric : Metric.logged {
      operation := .text operation, extra := callerData extra
      duration := milliseconds start (stopwatch w)
      stamp := ({ (started w).stamp with offset := none } : Moment).iso
      success := (fault.filter (!·.kind.isExit)).isNone
      message := (fault.filter (!·.kind.isExit)).map Fault.message } = .ok logged := h
  simp only [recordEnd, Work.perform_bind, perform_readSeconds, Work.perform_get, Work.perform_change,
    Work.perform_ofExcept, name, metric, Work.perform_note]
  rfl

/-! ## Measured work -/

/-- A state that a workshop is a part of, for work that includes work in the workshop. -/
structure Houses (σ : Type) [MonadLiftT Work (ExceptT Fault (StateM σ))] where
  view : σ → Workshop
  put : σ → Workshop → σ
  run_lift {β : Type} (work : Work β) (s : σ) : (liftM work : ExceptT Fault (StateM σ) β).run s =
    ((work.perform (view s)).1, put s (work.perform (view s)).2)

namespace Houses

variable {σ : Type} {β : Type}

variable [MonadLiftT Work (ExceptT Fault (StateM σ))] (h : Houses σ)

theorem measured_eq (operation extra : Datum) (work : ExceptT Fault (StateM σ) α) :
    measured operation extra work = (do
      let start ← (liftM Work.readSeconds : ExceptT Fault (StateM σ) Binary64)
      let result ← tryCatch work fun f => do
        let _ ← (liftM (recordEnd operation extra start (some f)) : ExceptT Fault (StateM σ) Unit)
        throw f
      let _ ← (liftM (recordEnd operation extra start none) : ExceptT Fault (StateM σ) Unit)
      return result) := rfl

/-- Measured work is the work, begun after a reading of the stopwatch; then its metric and a note of that
    are written down. -/
theorem exists_run_measured (operation : String) (extra : Option (List (Datum × Datum)))
    (work : ExceptT Fault (StateM σ) α) {s begun s' : σ} {r : Except Fault α}
    (begins : begun = h.put s (started (h.view s))) (run : work.run begun = (r, s')) :
    ∃ m logged,
      m = metricOf operation (callerData extra) (stopwatch (h.view s)) (fault? r) (h.view s') ∧
      m.logged = .ok logged ∧
      (measured (.text operation) (callerData extra) work).run s =
        (r, h.put s' (recorded (h.view s') m (metricNote operation logged))) := by
  let m := metricOf operation (callerData extra) (stopwatch (h.view s)) (fault? r) (h.view s')
  obtain ⟨logged, logs⟩ := exists_logged (show m.extra = callerData extra from rfl)
  have start : (liftM Work.readSeconds : ExceptT Fault (StateM σ) _).run s =
      (.ok (stopwatch (h.view s)), begun) := by
    rw [h.run_lift, perform_readSeconds, begins]
  have recording : (liftM (recordEnd (.text operation) (callerData extra) (stopwatch (h.view s))
      (thrown? r)) : ExceptT Fault (StateM σ) Unit).run s' =
      (.ok (), h.put s' (recorded (h.view s') m (metricNote operation logged))) := by
    rw [h.run_lift, perform_recordEnd _ logs]
    rfl
  refine ⟨m, logged, rfl, logs, ?_⟩
  cases r with
  | ok a =>
      rw [thrown?] at recording
      simp only [measured_eq, run_bind, run_tryCatch, start, run, recording]
      rfl
  | error f =>
      rw [thrown?] at recording
      simp only [measured_eq, run_bind, run_tryCatch, start, run, recording]
      rfl

end Houses

/-- A workshop is its own part. -/
def housesWorkshop : Houses Workshop where
  view w := w
  put _ w := w
  run_lift _ _ := rfl

theorem exists_perform_measured (operation : String) (extra : Option (List (Datum × Datum)))
    (work : Work α) (w : Workshop) :
    ∃ m logged, m = metricOf operation (callerData extra) (stopwatch w) (fault? (work.perform (started w)).1)
        (work.perform (started w)).2 ∧
      m.logged = .ok logged ∧
      (measured (.text operation) (callerData extra) work : Work α).perform w =
        ((work.perform (started w)).1,
          recorded (work.perform (started w)).2 m (metricNote operation logged)) :=
  housesWorkshop.exists_run_measured operation extra work rfl rfl

theorem idles_started (w : Workshop) : Idles w (started w) := ⟨⟨rfl, rfl, rfl, rfl, rfl⟩, rfl⟩

theorem idles_recorded (w : Workshop) (m : Metric) (operation : String) (logged : Datum) :
    Idles w (recorded w m (metricNote operation logged)) := by
  have other : measureLogger ≠ forgeLogger := by decide
  exact .of_note ⟨rfl, rfl, rfl, rfl, rfl⟩ rfl other

/-- Measured work is the work between two readings of the stopwatch. -/
theorem exists_of_measured {operation : String} {extra : List (String × Datum)} {work : Work α}
    {r : Except Fault α}
    (h : (measured (.text operation) (.named extra) work : Work α).perform w = (r, w')) :
    ∃ w₁ w₂, work.perform w₁ = (r, w₂) ∧ Idles w w₁ ∧ Idles w₂ w' := by
  obtain ⟨m, logged, -, -, run⟩ := exists_perform_measured operation
    (some (extra.map fun e => (.text e.1, e.2))) work w
  obtain ⟨rfl, rfl⟩ := Prod.mk.inj (h.symm.trans run)
  exact ⟨started w, _, rfl, idles_started w, idles_recorded _ m operation logged⟩

theorem exists_of_measuredIf {wanted : Bool} {operation : String} {extra : List (String × Datum)}
    {work : Work α} {r : Except Fault α}
    (h : (measuredIf wanted operation extra work).perform w = (r, w')) :
    ∃ w₁ w₂, work.perform w₁ = (r, w₂) ∧ Idles w w₁ ∧ Idles w₂ w' := by
  cases wanted with
  | true => exact exists_of_measured h
  | false => exact ⟨w, w', h, .refl w, .refl w'⟩

end CertMint.Mint
