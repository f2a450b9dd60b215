import CertMint.CommandLine.Run
import CertMint.Proofs.Loading
import CertMint.Proofs.Provision

/-! # Runs, stage by stage

A run goes through five stages: it loads settings, sets up logging, wires a facade, makes a fixture
and renders it. `Fails` and `Writes` say where a run gets to without computing it: every request gets
to one of the two, and each fixes what the run leaves behind.
-/

namespace CertMint.CommandLine

open Mint

/-- The stages of a run. -/
inductive Stage where
  | loading
  | logging
  | wiring
  | making
  | rendering
  deriving DecidableEq

namespace Stage

/-- Whether a fault at a stage is reported in place of ending the run. -/
def reports : Stage → Fault.Kind → Bool
  | .loading => isSettingsFault
  | .logging => (·.isSystem)
  | .wiring | .making => (·.isOperationFailed)
  | .rendering => fun _ => false

/-- How a run ends that has a fault at a stage. -/
def ending (stage : Stage) (f : Fault) : Ending :=
  if stage.reports f.kind then .status 1 else .fault f

theorem ending_ne_done (stage : Stage) (f : Fault) : stage.ending f ≠ .status 0 := by
  intro h
  rw [ending] at h
  split at h <;> cases h

theorem ending_eq_reported_iff {stage : Stage} {f : Fault} :
    stage.ending f = .status 1 ↔ stage.reports f.kind = true := by
  rw [ending]
  split
  case isTrue h => exact ⟨fun _ => h, fun _ => rfl⟩
  case isFalse h => exact ⟨fun same => (by cases same), fun yes => absurd yes h⟩

end Stage

section

variable (r : Request) (o : Log.Outlets) (w : Workshop)

/-- What comes of loading the settings of a request. -/
def settingsLoaded : Except Fault Settings := (Settings.loadWith o.files r.config r.level).1

/-- The outlets once the warnings about settings have been handled. -/
def warned : Log.Outlets :=
  o.handleNotes (stampSeconds w) (Settings.loadWith o.files r.config r.level).2

/-- What comes of setting up logging. -/
def loggingSet (s : Settings) : Except Fault Unit :=
  ((warned r o w).configure s.logLevel s.logFile).1

/-- A run gets past loading settings and setting up logging. -/
structure Ready (s : Settings) : Prop where
  loaded : settingsLoaded r o = .ok s
  set : loggingSet r o w s = .ok ()

/-- A run makes the fixture that its request names, which leaves a workshop. -/
inductive Makes : Fixture → Workshop → Prop
  | mk {s : Settings} {facade : Facade} {w₁ w₂ : Workshop} {kind : Scenario} {fixture : Fixture} :
      Ready r o w s → (Facade.wire s true).perform w = (.ok facade, w₁) → r.scenario = some kind →
      (facade.generate kind).perform w₁ = (.ok fixture, w₂) → Makes fixture w₂

/-- A run gets to a stage and has a fault there, which leaves a workshop. -/
inductive Fails : Stage → Fault → Workshop → Prop
  | loading {f : Fault} : settingsLoaded r o = .error f → Fails .loading f w
  | logging {s : Settings} {f : Fault} : settingsLoaded r o = .ok s →
      loggingSet r o w s = .error f → Fails .logging f w
  | wiring {s : Settings} {f : Fault} {w₁ : Workshop} : Ready r o w s →
      (Facade.wire s true).perform w = (.error f, w₁) → Fails .wiring f w₁
  | naming {s : Settings} {facade : Facade} {w₁ : Workshop} : Ready r o w s →
      (Facade.wire s true).perform w = (.ok facade, w₁) → r.scenario = none →
      Fails .making noScenario w₁
  | making {s : Settings} {facade : Facade} {w₁ w₂ : Workshop} {kind : Scenario} {f : Fault} :
      Ready r o w s → (Facade.wire s true).perform w = (.ok facade, w₁) → r.scenario = some kind →
      (facade.generate kind).perform w₁ = (.error f, w₂) → Fails .making f w₂
  | rendering {fixture : Fixture} {w₁ w₂ : Workshop} {f : Fault} : Makes r o w fixture w₁ →
      (render fixture r.describe).perform w₁ = (.error f, w₂) → Fails .rendering f w₂

/-- A run gets through all stages, with this text for the fixture that its request names. -/
inductive Writes : String → Workshop → Prop
  | mk {fixture : Fixture} {w₁ w₂ : Workshop} {text : String} : Makes r o w fixture w₁ →
      (render fixture r.describe).perform w₁ = (.ok text, w₂) → Writes text w₂

end

variable {r : Request} {o : Log.Outlets} {w w' : Workshop}

/-- Every request fails at a stage or gets through. -/
theorem fails_or_writes (r : Request) (o : Log.Outlets) (w : Workshop) :
    (∃ stage f w', Fails r o w stage f w') ∨ ∃ text w', Writes r o w text w' := by
  cases loaded : settingsLoaded r o with
  | error f => exact .inl ⟨_, f, w, .loading loaded⟩
  | ok s =>
  cases set : loggingSet r o w s with
  | error f => exact .inl ⟨_, f, w, .logging loaded set⟩
  | ok =>
  have ready : Ready r o w s := ⟨loaded, set⟩
  rcases wired : (Facade.wire s true).perform w with ⟨f | facade, w₁⟩
  · exact .inl ⟨_, f, w₁, .wiring ready wired⟩
  cases named : r.scenario with
  | none => exact .inl ⟨_, _, w₁, .naming ready wired named⟩
  | some kind =>
  rcases made : (facade.generate kind).perform w₁ with ⟨f | fixture, w₂⟩
  · exact .inl ⟨_, f, w₂, .making ready wired named made⟩
  have makes : Makes r o w fixture w₂ := .mk ready wired named made
  rcases rendered : (render fixture r.describe).perform w₂ with ⟨f | text, w₃⟩
  · exact .inl ⟨_, f, w₃, .rendering makes rendered⟩
  · exact .inr ⟨text, w₃, .mk makes rendered⟩

/-! ## What a run leaves behind -/

/-- A run ended so, with this on its output and this workshop. -/
structure Run.Left (run : Run) (ending : Ending) (output : String) (w : Workshop) : Prop where
  ending_eq : run.ending = ending
  output_eq : run.output = output
  workshop_eq : run.workshop = w

theorem left_failed (ending : Ending) (o : Log.Outlets) (w : Workshop) :
    (failed ending o w).Left ending "" w :=
  ⟨rfl, rfl, rfl⟩

theorem left_reported (reported : Bool) (f : Fault) (o o' : Log.Outlets) (w : Workshop) :
    (if reported then failed (.status 1) o w else failed (.fault f) o' w).Left
      (if reported then .status 1 else .fault f) "" w := by
  cases reported <;> exact left_failed _ _ _

theorem perform_of_loaded {s : Settings} (loaded : settingsLoaded r o = .ok s) :
    perform r o w = runWith r s (warned r o w) w := by
  rw [settingsLoaded] at loaded
  simp only [perform, loaded, warned]

theorem Ready.perform_eq {s : Settings} (h : Ready r o w s) :
    ∃ o', perform r o w = produce r s o' w := by
  obtain ⟨loaded, set⟩ := h
  rcases eq : (warned r o w).configure s.logLevel s.logFile with ⟨result, o'⟩
  rw [loggingSet, eq] at set
  refine ⟨o', ?_⟩
  simp only [perform_of_loaded loaded, runWith, eq]
  rw [show result = .ok () from set]

/-- A fault on the way to a fixture ends a run without output. -/
theorem Ready.left_of_error {s : Settings} {f : Fault} (h : Ready r o w s)
    (minted : (mint s r.scenario).perform w = (.error f, w')) :
    (perform r o w).Left (if f.kind.isOperationFailed then .status 1 else .fault f) "" w' := by
  obtain ⟨o', eq⟩ := h.perform_eq
  simp only [eq, produce, minted]
  exact left_reported _ _ _ _ _

theorem perform_mint_some {s : Settings} {facade : Facade}
    (wired : (Facade.wire s true).perform w = (.ok facade, w')) (kind : Scenario) :
    (mint s (some kind)).perform w = (facade.generate kind).perform w' := by
  rw [mint, Work.perform_bind, wired]

theorem perform_mint_none {s : Settings} {facade : Facade}
    (wired : (Facade.wire s true).perform w = (.ok facade, w')) :
    (mint s none).perform w = (.error noScenario, w') := by
  rw [mint, Work.perform_bind, wired]
  rfl

theorem Makes.perform_eq {fixture : Fixture} (h : Makes r o w fixture w') : ∃ s o',
    perform r o w = produce r s o' w ∧ (mint s r.scenario).perform w = (.ok fixture, w') := by
  obtain ⟨ready, wired, named, made⟩ := h
  obtain ⟨o', eq⟩ := ready.perform_eq
  refine ⟨_, o', eq, ?_⟩
  rw [named, perform_mint_some wired]
  exact made

theorem Fails.left {stage : Stage} {f : Fault} (h : Fails r o w stage f w') :
    (perform r o w).Left (stage.ending f) "" w' := by
  cases h with
  | loading loaded =>
      rw [settingsLoaded] at loaded
      simp only [perform, loaded]
      exact left_reported _ _ _ _ _
  | @logging s f loaded set =>
      rcases eq : (warned r o w).configure s.logLevel s.logFile with ⟨result, o'⟩
      rw [loggingSet, eq] at set
      simp only [perform_of_loaded loaded, runWith, eq, show result = .error f from set]
      exact left_reported _ _ _ _ _
  | wiring ready wired =>
      refine ready.left_of_error ?_
      rw [mint, Work.perform_bind, wired]
  | naming ready wired named =>
      refine ready.left_of_error (f := noScenario) ?_
      rw [named]
      exact perform_mint_none wired
  | making ready wired named made =>
      refine ready.left_of_error ?_
      rw [named, perform_mint_some wired]
      exact made
  | rendering makes rendered =>
      obtain ⟨s, o', eq, minted⟩ := makes.perform_eq
      simp only [eq, produce, minted, rendered]
      exact left_failed _ _ _

theorem Writes.left {text : String} (h : Writes r o w text w') :
    (perform r o w).Left (.status 0) text w' := by
  obtain ⟨makes, rendered⟩ := h
  obtain ⟨s, o', eq, minted⟩ := makes.perform_eq
  simp only [eq, produce, minted, rendered]
  exact ⟨rfl, rfl, rfl⟩

/-- Before keys are drawn there are two stages, and a fault at one of them leaves the workshop as it
    was. -/
theorem Fails.untouched {stage : Stage} {f : Fault} (h : Fails r o w stage f w')
    (early : stage = .loading ∨ stage = .logging) : w' = w := by
  cases h with
  | loading | logging => rfl
  | wiring | naming | making | rendering => rcases early with early | early <;> cases early

theorem perform_done_iff :
    (perform r o w).ending = .status 0 ↔
      Writes r o w (perform r o w).output (perform r o w).workshop := by
  constructor
  · intro done
    rcases fails_or_writes r o w with ⟨stage, f, w', fails⟩ | ⟨text, w', writes⟩
    · exact absurd (fails.left.ending_eq.symm.trans done) (stage.ending_ne_done f)
    · rw [writes.left.output_eq, writes.left.workshop_eq]
      exact writes
  · intro writes
    exact writes.left.ending_eq

/-- A run that gets to a workshop with enough for a fixture writes it. -/
theorem exists_writes {s : Settings} {kind : Scenario} {exponent : Int} (ready : Ready r o w s)
    (accepted : s.Accepted) (isInt : s.publicExponent = .int exponent) (provides : Provides s w 4 4)
    (named : r.scenario = some kind) (written : r.describe = false) : ∃ text w', Writes r o w text w' := by
  obtain ⟨facade, fixture, w', wired, made⟩ := provides.exists_generate accepted isInt true kind
  exact ⟨_, w', .mk (.mk ready wired named made) (by rw [written]; rfl)⟩

/-- The run for a fixture of any kind, with the default settings and enough in the workshop. -/
theorem perform_done_stocked (kind : Scenario) :
    (perform ⟨some kind, none, false, none⟩ Settings.strayOutlets stockedWorkshop).ending = .status 0 := by
  have ready : Ready ⟨some kind, none, false, none⟩ Settings.strayOutlets stockedWorkshop {} := ⟨rfl, rfl⟩
  obtain ⟨text, w', writes⟩ :=
    exists_writes ready (Settings.accepted_of_flaw? rfl) rfl provides_stockedWorkshop rfl rfl
  exact writes.left.ending_eq

theorem perform_reported_iff :
    (perform r o w).ending = .status 1 ↔
      ∃ stage f w', Fails r o w stage f w' ∧ stage.reports f.kind = true := by
  constructor
  · intro reported
    rcases fails_or_writes r o w with ⟨stage, f, w', fails⟩ | ⟨text, w', writes⟩
    · exact ⟨stage, f, w', fails,
        Stage.ending_eq_reported_iff.1 (fails.left.ending_eq.symm.trans reported)⟩
    · have clash := writes.left.ending_eq.symm.trans reported
      cases clash
  · rintro ⟨stage, f, w', fails, reports⟩
    rw [fails.left.ending_eq]
    exact Stage.ending_eq_reported_iff.2 reports

theorem perform_done_of_output (h : (perform r o w).output ≠ "") :
    (perform r o w).ending = .status 0 := by
  rcases fails_or_writes r o w with ⟨stage, f, w', fails⟩ | ⟨text, w', writes⟩
  · exact absurd fails.left.output_eq h
  · exact writes.left.ending_eq

/-! ## The whole command line -/

theorem run_of_request {texts : List String} (h : Request.ofTexts texts = .ok r) :
    run texts o w = perform r o w := by
  rw [run, h]

theorem run_of_stop {texts : List String} {stop : Stop} (h : Request.ofTexts texts = .error stop) :
    stop = .help ∧ (run texts o w).Left (.reading 0) helpText w ∨
      (run texts o w).Left (.reading 2) "" w := by
  rw [run, h]
  cases stop with
  | help => exact .inl ⟨rfl, rfl, rfl, rfl⟩
  | misuse m => exact .inr (left_failed _ _ _)

/-- Output is all or nothing. Help apart, text is on the output only of a run that ended with status
    zero, and it is then the whole rendering of the fixture that the request names. Status one is that
    of a reported fault, at the first stage that has one. Until logging is set up no key or serial is
    drawn. -/
theorem run_output_all_or_nothing (texts : List String) (o : Log.Outlets) (w : Workshop) :
    ((run texts o w).output ≠ "" → (run texts o w).ending = .status 0 ∨
      Request.ofTexts texts = .error .help ∧ (run texts o w).ending = .reading 0 ∧
        (run texts o w).output = helpText) ∧
    ((run texts o w).ending = .status 0 ↔ ∃ r, Request.ofTexts texts = .ok r ∧
      Writes r o w (run texts o w).output (run texts o w).workshop) ∧
    ((run texts o w).ending = .status 1 ↔ ∃ r, Request.ofTexts texts = .ok r ∧
      ∃ stage f w', Fails r o w stage f w' ∧ stage.reports f.kind = true) ∧
    ∀ r stage f w', Request.ofTexts texts = .ok r → Fails r o w stage f w' →
      stage = .loading ∨ stage = .logging → (run texts o w).workshop = w := by
  cases read : Request.ofTexts texts with
  | ok r =>
      simp only [run_of_request read, Except.ok.injEq, exists_eq_left']
      refine ⟨fun h => .inl (perform_done_of_output h), perform_done_iff, perform_reported_iff, ?_⟩
      rintro r stage f w' rfl fails early
      rw [fails.left.workshop_eq, fails.untouched early]
  | error stop =>
      have no_request {P : Request → Prop} :
          ¬∃ r, (Except.error stop : Except Stop Request) = .ok r ∧ P r := by
        rintro ⟨_, h, _⟩
        cases h
      obtain ⟨code, output, left, help⟩ : ∃ code output,
          (run texts o w).Left (.reading code) output w ∧
            (output ≠ "" → stop = .help ∧ code = 0 ∧ output = helpText) := by
        rcases run_of_stop (o := o) (w := w) read with ⟨rfl, left⟩ | left
        · exact ⟨_, _, left, fun _ => ⟨rfl, rfl, rfl⟩⟩
        · exact ⟨_, _, left, fun h => absurd rfl h⟩
      rw [left.ending_eq, left.output_eq, left.workshop_eq]
      refine ⟨fun h => ?_, ⟨fun h => (by cases h), fun h => absurd h no_request⟩,
        ⟨fun h => (by cases h), fun h => absurd h no_request⟩, fun _ _ _ _ h => (by cases h)⟩
      obtain ⟨rfl, rfl, rfl⟩ := help h
      exact .inr ⟨rfl, rfl, rfl⟩

end CertMint.CommandLine
