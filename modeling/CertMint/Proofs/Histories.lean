import CertMint.Proofs.Monitoring

/-! # The history of a monitor

Routines measure operations on one monitor, in any order and nesting, ask it for its metrics and go on after
faults or stop with them. What ended in a routine and what was asked in it is its history. The metrics that
the monitor keeps and the lists that it hands out follow the history, entry by entry.
-/

namespace CertMint.Mint

/-! ## Routines -/

/-- A workshop, and the lists of metrics that were handed out, oldest first. -/
structure Monitored where
  workshop : Workshop
  handed : List (List Metric)

/-- Work that may ask for metrics. -/
abbrev Watching (α : Type) : Type := ExceptT Fault (StateM Monitored) α

instance : MonadLift Work Watching where
  monadLift work := fun s =>
    let (r, w) := work.perform s.workshop
    (r, { s with workshop := w })

def housesMonitored : Houses Monitored where
  view s := s.workshop
  put s w := { s with workshop := w }
  run_lift _ _ := rfl

/-- Work that leaves the metrics to the monitor. -/
structure Errand where
  work : Work Unit
  metrics_eq : ∀ w, (work.perform w).2.metrics = w.metrics

/-- What may be done with one monitor. -/
inductive Routine where
  | act (errand : Errand)
  /-- Ask for the metrics of an operation, or for all of them. -/
  | ask (operation : Option String)
  | build (b : Builder) (c : Commission)
  | measure (operation : String) (extra : Option (List (Datum × Datum))) (body : Routine)
  | attempt (body : Routine) (handler : Fault → Routine)
  | andThen (first second : Routine)
  /-- Go on as the state demands. -/
  | choose (choice : Monitored → Routine)

namespace Routine

def work : Routine → Watching Unit
  | .act errand => liftM errand.work
  | .ask operation => modifyThe Monitored fun s =>
      { s with handed := s.handed ++ [Metric.select (Datum.ofText? operation) s.workshop.metrics] }
  | .build b c => do
      let _ ← (liftM (c.work b) : Watching Fixture)
      return ()
  | .measure operation extra body => measured (.text operation) (callerData extra) body.work
  | .attempt body handler => tryCatch body.work fun f => (handler f).work
  | .andThen first second => do
      first.work
      second.work
  | .choose choice => do
      let s ← getThe Monitored
      (choice s).work

def perform (r : Routine) (s : Monitored) : Except Fault Unit × Monitored := r.work.run s

end Routine

/-! ## Histories -/

/-- A measured operation that ended, with a fault or without one. -/
structure Completion where
  operation : String
  extra : Option (List (Datum × Datum))
  fault : Option Fault

/-- What a monitor takes notice of. -/
inductive Event where
  | ended (c : Completion)
  | asked (operation : Option String)

namespace Event

def completion? : Event → Option Completion
  | .ended c => some c
  | .asked _ => none

def question? : Event → Option (Option String)
  | .ended _ => none
  | .asked operation => some operation

end Event

/-- The end of a commission's measured part. -/
def Commission.completion (c : Commission) (b : Builder) (w : Workshop) : Completion where
  operation := c.operation
  extra := some (c.extra.map fun (key, d) => (.text key, d))
  fault := fault? ((c.core b).perform w).1

namespace Routine

/-- The state after the stopwatch was read. -/
def begun (s : Monitored) : Monitored := { s with workshop := started s.workshop }

/-- What happens in a routine, in order. An operation ends after those in its body; a refused commission is
    not measured. -/
def history : Routine → Monitored → List Event
  | .act _, _ => []
  | .ask operation, _ => [.asked operation]
  | .build b c, s =>
      match b.measures, c.check with
      | true, .ok _ => [.ended (c.completion b s.workshop)]
      | _, _ => []
  | .measure operation extra body, s =>
      body.history (begun s) ++ [.ended ⟨operation, extra, fault? (body.perform (begun s)).1⟩]
  | .attempt body handler, s => body.history s ++
      match body.perform s with
      | (.ok _, _) => []
      | (.error f, s') => (handler f).history s'
  | .andThen first second, s => first.history s ++
      match first.perform s with
      | (.ok _, s') => second.history s'
      | (.error _, _) => []
  | .choose choice, s => (choice s).history s

end Routine

/-! ## What a monitor keeps -/

/-- Whether a metric is of the operation with a name. -/
def isNamed (name : String) (m : Metric) : Bool :=
  match m.operation with
  | .text t => t == name
  | _ => false

/-- The metrics that are handed out: those of the operation with the name, or all if none is given. -/
def chosen : Option String → List Metric → List Metric
  | none, metrics => metrics
  | some name, metrics => if name = "" then metrics else metrics.filter (isNamed name)

theorem select_eq_chosen (operation : Option String) (metrics : List Metric) :
    Metric.select (Datum.ofText? operation) metrics = chosen operation metrics := by
  cases operation with
  | none => rfl
  | some name =>
      have named (m : Metric) : m.operation.same (.text name) = isNamed name m := by
        rw [isNamed]
        cases m.operation <;> rfl
      by_cases empty : name = ""
      · simp [empty, chosen, Metric.select, Datum.ofText?, Datum.truthy]
      · simp [empty, chosen, Metric.select, Datum.ofText?, Datum.truthy, named]

/-- The metric of an operation that ended. -/
structure Entry (c : Completion) (m : Metric) : Prop where
  operation_eq : m.operation = .text c.operation
  extra_eq : m.extra = callerData c.extra
  success_iff : m.success = true ↔ c.fault = none
  message_eq : m.message = c.fault.map Fault.message

theorem entry_metricOf (c : Completion) (start : Binary64) (w : Workshop) :
    Entry c (metricOf c.operation (callerData c.extra) start c.fault w) :=
  ⟨rfl, rfl, Option.isNone_iff_eq_none, rfl⟩

/-- A list that was handed out is chosen from what was known between two stages. -/
def Chosen (metrics metrics' : List Metric) (operation : Option String) (list : List Metric) : Prop :=
  ∃ known, metrics <+: known ∧ known <+: metrics' ∧ list = chosen operation known

/-- Events take a monitor from some metrics and lists handed out to others. -/
inductive Follows : List Event → List Metric → List (List Metric) → List Metric → List (List Metric) → Prop
  where
  | nil (metrics : List Metric) (handed : List (List Metric)) : Follows [] metrics handed metrics handed
  | ended {c : Completion} {m : Metric} {events : List Event} {metrics metrics' : List Metric}
    {handed handed' : List (List Metric)} (entry : Entry c m)
    (rest : Follows events (metrics ++ [m]) handed metrics' handed') :
    Follows (.ended c :: events) metrics handed metrics' handed'
  | asked {operation : Option String} {events : List Event} {metrics metrics' : List Metric}
    {handed handed' : List (List Metric)}
    (rest : Follows events metrics (handed ++ [chosen operation metrics]) metrics' handed') :
    Follows (.asked operation :: events) metrics handed metrics' handed'

namespace Follows

variable {events events' : List Event} {metrics metrics' metrics'' : List Metric}
  {handed handed' handed'' : List (List Metric)}

theorem append (first : Follows events metrics handed metrics' handed')
    (second : Follows events' metrics' handed' metrics'' handed'') :
    Follows (events ++ events') metrics handed metrics'' handed'' := by
  induction first with
  | nil => exact second
  | ended entry _ ih => exact .ended entry (ih second)
  | asked _ ih => exact .asked (ih second)

/-- Metrics are added only, one for each operation that ended, in the order in which they ended. -/
theorem exists_metrics_eq (h : Follows events metrics handed metrics' handed') :
    ∃ entries, metrics' = metrics ++ entries ∧
      List.Forall₂ Entry (events.filterMap Event.completion?) entries := by
  induction h with
  | nil => exact ⟨[], by simp, .nil⟩
  | @ended c m _ metrics _ _ _ entry _ ih =>
      obtain ⟨entries, eq, all⟩ := ih
      exact ⟨m :: entries, by simp [eq], .cons entry all⟩
  | asked _ ih => exact ih

/-- Lists are handed out only, one for each question, and none of them changes later. -/
theorem exists_handed_eq (h : Follows events metrics handed metrics' handed') :
    ∃ lists, handed' = handed ++ lists ∧
      List.Forall₂ (Chosen metrics metrics') (events.filterMap Event.question?) lists := by
  induction h with
  | nil => exact ⟨[], by simp, .nil⟩
  | @ended c m _ metrics metrics' _ _ _ _ ih =>
      obtain ⟨lists, eq, all⟩ := ih
      refine ⟨lists, eq, all.imp ?_⟩
      intro operation list
      rintro ⟨known, after, before, choice⟩
      exact ⟨known, (List.prefix_append _ _).trans after, before, choice⟩
  | @asked operation _ metrics metrics' _ _ rest ih =>
      obtain ⟨lists, eq, all⟩ := ih
      obtain ⟨entries, grown, -⟩ := rest.exists_metrics_eq
      refine ⟨chosen operation metrics :: lists, by simp [eq], .cons ?_ all⟩
      exact ⟨metrics, List.prefix_rfl, grown ▸ List.prefix_append _ _, rfl⟩

end Follows

/-! ## Step by step -/

namespace Commission

theorem perform_work_of_refused {c : Commission} {f : Fault} (b : Builder) (w : Workshop)
    (refused : c.check = .error f) : (c.work b).perform w = (.error f, w) := by
  rw [work_eq, Work.perform_bind, Work.perform_ofExcept, refused]

/-- What is done with the product adds no metric. -/
theorem metrics_bind_finish (c : Commission) (work : Work c.Product) (w : Workshop) :
    ((work >>= c.finish).perform w).2.metrics = (work.perform w).2.metrics := by
  rw [Work.perform_bind]
  rcases work.perform w with ⟨f | product, w'⟩
  · rfl
  · exact (c.steady_finish product).metrics_eq w'

/-- A commission that is not refused leaves a metric of its measured part, if that is measured. -/
theorem exists_metrics_work {c : Commission} (b : Builder) (w : Workshop) (accepted : c.check = .ok ()) :
    ∃ own, ((c.work b).perform w).2.metrics = w.metrics ++ own ∧
      match b.measures with
      | true => ∃ m, own = [m] ∧ Entry (c.completion b w) m
      | false => own = [] := by
  rw [work_eq, Work.perform_bind, Work.perform_ofExcept, accepted]
  simp only [metrics_bind_finish]
  cases b.measures with
  | false =>
      refine ⟨[], ?_, rfl⟩
      rw [List.append_nil]
      exact (c.steady_core b).metrics_eq w
  | true =>
      obtain ⟨m, logged, metric, -, run⟩ := exists_perform_measured c.operation
        (some (c.extra.map fun (key, d) => (.text key, d))) (c.core b) w
      have same : ((c.core b).perform (started w)).1 = ((c.core b).perform w).1 :=
        (c.steady_core b).result_refit w _ _ _
      rw [same] at metric
      have measuredCore : (measuredIf true c.operation c.extra (c.core b)).perform w = _ := run
      refine ⟨[m], ?_, m, rfl, metric ▸ entry_metricOf (c.completion b w) (stopwatch w) _⟩
      rw [measuredCore, recorded, Workshop.refit, (c.steady_core b).metrics_eq]
      rfl

end Commission

namespace Routine

/-! ### Performing -/

variable (s : Monitored)

theorem perform_act (errand : Errand) : (act errand).perform s =
    ((errand.work.perform s.workshop).1, { s with workshop := (errand.work.perform s.workshop).2 }) := rfl

theorem perform_ask (operation : Option String) : (ask operation).perform s = (.ok (), { s with
    handed := s.handed ++ [chosen operation s.workshop.metrics] }) := by
  rw [← select_eq_chosen]
  rfl

theorem perform_andThen (first second : Routine) : (first.andThen second).perform s =
    match first.perform s with
    | (.ok _, s') => second.perform s'
    | (.error f, s') => (.error f, s') := by
  simp only [perform, work, run_bind]
  rcases first.work.run s with ⟨_ | _, _⟩ <;> rfl

theorem perform_attempt (body : Routine) (handler : Fault → Routine) : (body.attempt handler).perform s =
    match body.perform s with
    | (.ok _, s') => (.ok (), s')
    | (.error f, s') => (handler f).perform s' := by
  simp only [perform, work, run_tryCatch]
  rcases body.work.run s with ⟨_ | _, _⟩ <;> rfl

theorem perform_build (b : Builder) (c : Commission) : (build b c).perform s =
    (((c.work b).perform s.workshop).1.map fun _ => (),
      { s with workshop := ((c.work b).perform s.workshop).2 }) := by
  rw [perform, work, run_bind, housesMonitored.run_lift]
  rcases run : (c.work b).perform s.workshop with ⟨f | fixture, w⟩
  · simp [housesMonitored, run, Except.map]
  · simp [housesMonitored, run, Except.map]
    rfl

/-- A measured body goes its way, and then its metric is entered. -/
theorem exists_perform_measure (operation : String) (extra : Option (List (Datum × Datum)))
    (body : Routine) :
    ∃ m n, Entry ⟨operation, extra, fault? (body.perform (begun s)).1⟩ m ∧
      (measure operation extra body).perform s = ((body.perform (begun s)).1,
        { (body.perform (begun s)).2 with
          workshop := recorded (body.perform (begun s)).2.workshop m n }) := by
  obtain ⟨m, logged, metric, -, run⟩ := housesMonitored.exists_run_measured operation extra body.work
    (s := s) rfl rfl
  exact ⟨m, metricNote operation logged, metric ▸ entry_metricOf ⟨operation, extra, _⟩ _ _, run⟩

/-! ### Following -/

/-- What a monitor keeps and hands out follows the history of the routine. -/
theorem follows_history (r : Routine) : Follows (r.history s) s.workshop.metrics s.handed
    (r.perform s).2.workshop.metrics (r.perform s).2.handed := by
  induction r generalizing s with
  | act errand =>
      rw [perform_act, errand.metrics_eq]
      exact .nil _ _
  | ask operation =>
      rw [perform_ask]
      exact .asked (.nil _ _)
  | choose choice ih => exact ih s s
  | build b c =>
      rw [perform_build, history]
      cases checked : c.check with
      | error f =>
          rw [c.perform_work_of_refused b _ checked]
          cases b.measures <;> exact .nil _ _
      | ok _ =>
          obtain ⟨own, eq, entered⟩ := c.exists_metrics_work b s.workshop checked
          rw [eq]
          cases measures : b.measures with
          | false =>
              rw [measures] at entered
              rw [entered, List.append_nil]
              exact .nil _ _
          | true =>
              rw [measures] at entered
              obtain ⟨m, rfl, entry⟩ := entered
              exact .ended entry (.nil _ _)
  | measure operation extra body ih =>
      obtain ⟨m, n, entry, run⟩ := exists_perform_measure s operation extra body
      rw [run]
      exact (ih (begun s)).append (.ended entry (.nil _ _))
  | attempt body handler ihBody ihHandler =>
      rw [perform_attempt, history]
      have first := ihBody s
      rcases run : body.perform s with ⟨f | _, s'⟩
      · rw [run] at first
        exact first.append (ihHandler f s')
      · rw [run] at first
        exact first.append (.nil _ _)
  | andThen first second ihFirst ihSecond =>
      rw [perform_andThen, history]
      have before := ihFirst s
      rcases run : first.perform s with ⟨f | _, s'⟩
      · rw [run] at before
        exact before.append (.nil _ _)
      · rw [run] at before
        exact before.append (ihSecond s')

/-! ### The metrics of a routine -/

/-- What a monitor has to show for a routine: a metric for each operation, in the order in which they ended,
    and the lists that were asked for. Nothing that was there before changes. -/
structure MetricLog (r : Routine) (s : Monitored) : Prop where
  follows : Follows (r.history s) s.workshop.metrics s.handed (r.perform s).2.workshop.metrics
    (r.perform s).2.handed
  metrics : ∃ entries, (r.perform s).2.workshop.metrics = s.workshop.metrics ++ entries ∧
    List.Forall₂ Entry ((r.history s).filterMap Event.completion?) entries
  handed : ∃ lists, (r.perform s).2.handed = s.handed ++ lists ∧
    List.Forall₂ (Chosen s.workshop.metrics (r.perform s).2.workshop.metrics)
      ((r.history s).filterMap Event.question?) lists
  /-- A measured body ends as the body does. -/
  result_measure : ∀ operation extra body, r = measure operation extra body →
    (r.perform s).1 = (body.perform (begun s)).1
  /-- A commission that is refused leaves everything as it is. -/
  refused : ∀ b c f, r = build b c → c.check = .error f → r.perform s = (.error f, s)

theorem metric_log (r : Routine) (s : Monitored) : MetricLog r s where
  follows := follows_history s r
  metrics := (follows_history s r).exists_metrics_eq
  handed := (follows_history s r).exists_handed_eq
  result_measure operation extra body shape := by
    obtain ⟨m, n, -, run⟩ := exists_perform_measure s operation extra body
    rw [shape, run]
  refused b c f shape refusal := by
    rw [shape, perform_build, c.perform_work_of_refused b _ refusal]
    rfl

example : (measure "outer" none (attempt
    (measure "inner" none (act ⟨Work.fail (.of .value "no"), fun _ => rfl⟩)) fun _ => ask none)).history
      ⟨stockedWorkshop, []⟩ =
    [.ended ⟨"inner", none, some (.of .value "no")⟩, .asked none, .ended ⟨"outer", none, none⟩] := rfl

end Routine

end CertMint.Mint
