import CertMint.Proofs.Loading

/-! # What a review says

A review deals its issues out to errors and warnings, in order, and its summary has an entry for each of them.
Settings that were accepted and that log to a text or not at all get warnings only, so no file is refused after
its settings were accepted.
-/

namespace CertMint

/-! ## Dealing out -/

/-- Issues dealt out in order: an error to the errors, a warning to the warnings, and one of any other
    severity to neither. -/
inductive Dealt : List Issue → List Issue → List Issue → Prop where
  | nil : Dealt [] [] []
  | error {i : Issue} {issues errors warnings : List Issue} (grave : i.severity = "error")
      (rest : Dealt issues errors warnings) : Dealt (i :: issues) (i :: errors) warnings
  | warning {i : Issue} {issues errors warnings : List Issue} (mild : i.severity = "warning")
      (rest : Dealt issues errors warnings) : Dealt (i :: issues) errors (i :: warnings)
  | other {i : Issue} {issues errors warnings : List Issue} (notGrave : i.severity ≠ "error")
      (notMild : i.severity ≠ "warning") (rest : Dealt issues errors warnings) : Dealt (i :: issues) errors warnings

namespace Dealt

variable {issues issues' errors errors' warnings warnings' : List Issue}

theorem grave_ne_mild {i : Issue} (grave : i.severity = "error") : i.severity ≠ "warning" := by
  rw [grave]
  decide

/-- There is one way to deal out. -/
theorem unique (h : Dealt issues errors warnings) (h' : Dealt issues errors' warnings') :
    errors = errors' ∧ warnings = warnings' := by
  induction h generalizing errors' warnings' with
  | nil =>
      cases h'
      exact ⟨rfl, rfl⟩
  | error grave _ ih =>
      cases h' with
      | error _ rest =>
          obtain ⟨rfl, rfl⟩ := ih rest
          exact ⟨rfl, rfl⟩
      | warning mild _ => exact absurd mild (grave_ne_mild grave)
      | other notGrave _ _ => exact absurd grave notGrave
  | warning mild _ ih =>
      cases h' with
      | error grave _ => exact absurd mild (grave_ne_mild grave)
      | warning _ rest =>
          obtain ⟨rfl, rfl⟩ := ih rest
          exact ⟨rfl, rfl⟩
      | other _ notMild _ => exact absurd mild notMild
  | other notGrave notMild _ ih =>
      cases h' with
      | error grave _ => exact absurd grave notGrave
      | warning mild _ => exact absurd mild notMild
      | other _ _ rest => exact ih rest

theorem append (h : Dealt issues errors warnings) (h' : Dealt issues' errors' warnings') :
    Dealt (issues ++ issues') (errors ++ errors') (warnings ++ warnings') := by
  induction h with
  | nil => exact h'
  | error grave _ ih => exact .error grave ih
  | warning mild _ ih => exact .warning mild ih
  | other notGrave notMild _ ih => exact .other notGrave notMild ih

theorem severity_errors (h : Dealt issues errors warnings) : ∀ i ∈ errors, i.severity = "error" := by
  induction h with
  | nil => exact fun i member => nomatch member
  | error grave _ ih => exact List.forall_mem_cons.mpr ⟨grave, ih⟩
  | warning _ _ ih => exact ih
  | other _ _ _ ih => exact ih

theorem severity_warnings (h : Dealt issues errors warnings) : ∀ i ∈ warnings, i.severity = "warning" := by
  induction h with
  | nil => exact fun i member => nomatch member
  | error _ _ ih => exact ih
  | warning mild _ ih => exact List.forall_mem_cons.mpr ⟨mild, ih⟩
  | other _ _ _ ih => exact ih

theorem of_errors (grave : ∀ i ∈ issues, i.severity = "error") : Dealt issues issues [] := by
  induction issues with
  | nil => exact .nil
  | cons i rest ih =>
      obtain ⟨first, others⟩ := List.forall_mem_cons.mp grave
      exact .error first (ih others)

theorem of_warnings (mild : ∀ i ∈ issues, i.severity = "warning") : Dealt issues [] issues := by
  induction issues with
  | nil => exact .nil
  | cons i rest ih =>
      obtain ⟨first, others⟩ := List.forall_mem_cons.mp mild
      exact .warning first (ih others)

/-- What was dealt out once is dealt out the same way again. -/
theorem again (h : Dealt issues errors warnings) : Dealt (errors ++ warnings) errors warnings := by
  have dealt := (of_errors h.severity_errors).append (of_warnings h.severity_warnings)
  rwa [List.append_nil, List.nil_append] at dealt

end Dealt

theorem dealt_filter (issues : List Issue) :
    Dealt issues (issues.filter (·.severity == "error")) (issues.filter (·.severity == "warning")) := by
  induction issues with
  | nil => exact .nil
  | cons i rest ih =>
      by_cases grave : i.severity = "error"
      · have notMild := Dealt.grave_ne_mild grave
        simp only [List.filter_cons, beq_iff_eq, if_pos grave, if_neg notMild]
        exact .error grave ih
      · by_cases mild : i.severity = "warning"
        · simp only [List.filter_cons, beq_iff_eq, if_neg grave, if_pos mild]
          exact .warning mild ih
        · simp only [List.filter_cons, beq_iff_eq, if_neg grave, if_neg mild]
          exact .other grave mild ih

namespace Review

/-! ## Summaries -/

/-- An entry for each issue on a line of its own, under the word for its severity. -/
def entries (word : String) : List Issue → String
  | [] => ""
  | i :: rest => "\n  - " ++ word ++ ": " ++ i.field ++ " - " ++ i.message ++ entries word rest

/-- The words for errors and warnings. -/
inductive Worded : List Issue → List Issue → String → Prop where
  | valid : Worded [] [] "Configuration is valid"
  | errors {errors : List Issue} (some_ : errors ≠ []) :
      Worded errors [] ("Configuration Errors:" ++ entries "ERROR" errors)
  | warnings {warnings : List Issue} (some_ : warnings ≠ []) :
      Worded [] warnings ("Configuration Warnings:" ++ entries "WARNING" warnings)
  | both {errors warnings : List Issue} (some_ : errors ≠ []) (some_' : warnings ≠ []) :
      Worded errors warnings ("Configuration Errors:" ++ entries "ERROR" errors ++ "\n" ++
        ("Configuration Warnings:" ++ entries "WARNING" warnings))

variable {heading word : String} {issues errors warnings : List Issue} {text : String}

theorem line_eq {severity : String} (upper : Text.upper severity = word) {i : Issue}
    (same : i.severity = severity) : "  - " ++ i.line = "  - " ++ word ++ ": " ++ i.field ++ " - " ++ i.message := by
  rw [Issue.line, same, upper]
  simp only [String.append_assoc]

theorem intercalate_block {severity : String} (upper : Text.upper severity = word)
    (same : ∀ i ∈ issues, i.severity = severity) :
    "\n".intercalate (heading :: issues.map fun i => "  - " ++ i.line) = heading ++ entries word issues := by
  induction issues generalizing heading with
  | nil => simp [entries]
  | cons i rest ih =>
      obtain ⟨first, others⟩ := List.forall_mem_cons.mp same
      rw [List.map_cons, String.intercalate_cons_cons, ih others, line_eq upper first, entries]
      simp only [String.append_assoc]
      rfl

theorem block_eq (some_ : issues ≠ []) :
    block heading issues = heading :: issues.map fun i => "  - " ++ i.line :=
  if_neg (mt List.isEmpty_iff.mp some_)

theorem block_ne_nil (some_ : issues ≠ []) : block heading issues ≠ [] := by
  rw [block_eq some_]
  exact List.cons_ne_nil _ _

theorem summary_eq {r : Review} {lines : List String} (some_ : lines ≠ [])
    (same : block "Configuration Errors:" r.errors ++ block "Configuration Warnings:" r.warnings = lines) :
    r.summary = "\n".intercalate lines := by
  rw [summary, same]
  exact if_neg (mt List.isEmpty_iff.mp some_)

theorem upper_severities : Text.upper "error" = "ERROR" ∧ Text.upper "warning" = "WARNING" := by
  decide +kernel

/-- The summary of errors and warnings. -/
theorem worded_summary {r : Review} (grave : ∀ i ∈ r.errors, i.severity = "error")
    (mild : ∀ i ∈ r.warnings, i.severity = "warning") : Worded r.errors r.warnings r.summary := by
  obtain ⟨upperError, upperWarning⟩ := upper_severities
  have errorBlock : r.errors ≠ [] → "\n".intercalate (block "Configuration Errors:" r.errors) =
      "Configuration Errors:" ++ entries "ERROR" r.errors := fun some_ => by
    rw [block_eq some_, intercalate_block upperError grave]
  have warningBlock : r.warnings ≠ [] → "\n".intercalate (block "Configuration Warnings:" r.warnings) =
      "Configuration Warnings:" ++ entries "WARNING" r.warnings := fun some_ => by
    rw [block_eq some_, intercalate_block upperWarning mild]
  by_cases noErrors : r.errors = []
  · by_cases noWarnings : r.warnings = []
    · have words : r.summary = "Configuration is valid" := by
        rw [summary, noErrors, noWarnings]
        rfl
      rw [noErrors, noWarnings, words]
      exact .valid
    · have only : block "Configuration Errors:" r.errors ++ block "Configuration Warnings:" r.warnings =
          block "Configuration Warnings:" r.warnings := by
        rw [noErrors]
        rfl
      rw [summary_eq (block_ne_nil noWarnings) only, warningBlock noWarnings, noErrors]
      exact .warnings noWarnings
  · by_cases noWarnings : r.warnings = []
    · have only : block "Configuration Errors:" r.errors ++ block "Configuration Warnings:" r.warnings =
          block "Configuration Errors:" r.errors := by
        rw [noWarnings]
        exact List.append_nil _
      rw [summary_eq (block_ne_nil noErrors) only, errorBlock noErrors, noWarnings]
      exact .errors noErrors
    · rw [summary_eq (List.append_ne_nil_of_left_ne_nil (block_ne_nil noErrors) _) rfl,
        String.intercalate_append_of_ne_nil (block_ne_nil noErrors) (block_ne_nil noWarnings),
        errorBlock noErrors, warningBlock noWarnings]
      exact .both noErrors noWarnings

theorem ne_valid_of_heading (heading : String)
    (other : ¬ heading.toList <+: "Configuration is valid".toList) (rest : String) :
    heading ++ rest ≠ "Configuration is valid" := by
  intro same
  apply other
  rw [← same, String.toList_append]
  exact List.prefix_append _ _

/-- A summary says that settings are valid only where there is nothing to say of them. -/
theorem Worded.valid_iff (h : Worded errors warnings text) :
    text = "Configuration is valid" ↔ errors = [] ∧ warnings = [] := by
  cases h with
  | valid => simp
  | errors some_ => simp [some_, ne_valid_of_heading "Configuration Errors:" (by decide)]
  | warnings some_ => simp [some_, ne_valid_of_heading "Configuration Warnings:" (by decide)]
  | both some_ some_' =>
      simp only [some_, false_and, iff_false, String.append_assoc]
      exact ne_valid_of_heading "Configuration Errors:" (by decide) _

/-! ## Reviews of issues -/

/-- A review that deals issues out, and says so. -/
structure Divides (issues : List Issue) (r : Review) : Prop where
  dealt_iff : ∀ errors warnings, Dealt issues errors warnings ↔ errors = r.errors ∧ warnings = r.warnings
  again : Review.of r.accepted r.errors r.warnings = r
  worded : Worded r.errors r.warnings r.summary
  valid_iff : r.summary = "Configuration is valid" ↔ r.errors = [] ∧ r.warnings = []

theorem divides_of (accepted : Datum) (first second : List Issue) :
    Divides (first ++ second) (Review.of accepted first second) := by
  have dealt : Dealt (first ++ second) (Review.of accepted first second).errors
      (Review.of accepted first second).warnings := dealt_filter _
  have words := worded_summary dealt.severity_errors dealt.severity_warnings
  refine ⟨fun errors warnings => ⟨fun h => h.unique dealt, ?_⟩, ?_, words, words.valid_iff⟩
  · rintro ⟨rfl, rfl⟩
    exact dealt
  · obtain ⟨errors, warnings⟩ := (dealt_filter _).unique dealt.again
    exact congrArg₂ (Review.mk accepted) errors warnings

end Review

/-! ## Reviews of settings -/

namespace Settings

variable {t : Files.Tree} {path : String} {s : Settings} {f : Fault}

/-- A review of settings that log to a text or not at all finds no errors. -/
theorem exists_sound_review (t : Files.Tree) (logs : s.LogsToText) :
    ∃ r, s.review t = .ok r ∧ r.accepted = .bool true ∧ r.errors = [] := by
  obtain ⟨r, reviewed, sound⟩ := exists_review t logs
  refine ⟨r, reviewed, ?_, ?_⟩
  · rw [review] at reviewed
    obtain ⟨issues, -, same⟩ := bind_eq_ok.mp reviewed
    exact congrArg Review.accepted (Except.ok.inj same).symm
  · simpa [Review.hasErrors] using sound

/-- Settings that a file gives are accepted, and log to a text or not at all. -/
theorem accepted_of_readFile (h : readFile t path = .ok s) : s.check = .ok s ∧ s.LogsToText := by
  rw [readFile] at h
  split at h
  · cases h
  · obtain ⟨doc, -, h⟩ := bind_eq_ok.mp h
    obtain ⟨entries, -, h⟩ := bind_eq_ok.mp h
    obtain ⟨assigned, assigning, checked⟩ := bind_eq_ok.mp h
    obtain ⟨rfl, -⟩ := accepted_of_check checked
    exact ⟨checked, logsToText_of_assign (.inl rfl) assigning⟩

/-- What stops loading is found before the review. -/
theorem load_eq_error_iff : load t path = .error f ↔ readFile t path = .error f := by
  cases read : readFile t path with
  | error g =>
      have loaded : load t path = .error g := by rw [load, read]; rfl
      simp only [loaded, Except.error.injEq]
  | ok s =>
      obtain ⟨notes, loaded⟩ := exists_load_eq_ok read (accepted_of_readFile read).2
      rw [loaded]
      exact ⟨fun same => (by cases same), fun same => (by cases same)⟩

end Settings

/-- A review holds of two lists of issues exactly the errors and the warnings, in order, each as often as it
    was found, and its summary says what it holds. Settings that are accepted and log to a text or not at all
    get no errors. So the review of settings that a file gives always goes well, and whatever stops loading
    stops it before. -/
theorem Review.divides_and_spares :
    (∀ accepted first second, Divides (first ++ second) (Review.of accepted first second)) ∧
      (∀ (t : Files.Tree) (s : Settings), s.check = .ok s → s.LogsToText →
        ∃ r, s.review t = .ok r ∧ r.accepted = .bool true ∧ r.errors = []) ∧
      ∀ t path, (∀ s, Settings.readFile t path = .ok s → ∃ r, s.review t = .ok r ∧ r.hasErrors = false) ∧
        ∀ f, Settings.load t path = .error f ↔ Settings.readFile t path = .error f := by
  refine ⟨divides_of, fun t s _ logs => Settings.exists_sound_review t logs, fun t path => ⟨?_, ?_⟩⟩
  · intro s read
    exact Settings.exists_review t (Settings.accepted_of_readFile read).2
  · exact fun f => Settings.load_eq_error_iff

def smallKey : Issue := ⟨"key_size", "Too small", "error"⟩

def hiddenLog : Issue := ⟨"log_file_path", "Not there", "warning"⟩

def praise : Issue := ⟨"log_level", "Well chosen", "praise"⟩

/-- Settings with a large key and a log file in a directory that is not there. -/
def farSettings : Settings := { keySize := .int 4096, logFile := .text "far/away.log" }

/-- The same error is found twice, around a warning and a word of praise. -/
theorem Review.divides_and_spares_mixed :
    Dealt ([smallKey, hiddenLog] ++ [praise, smallKey]) [smallKey, smallKey] [hiddenLog] ∧
      (Review.of (.bool false) [smallKey, hiddenLog] [praise, smallKey]).summary =
        "Configuration Errors:\n  - ERROR: key_size - Too small\n  - ERROR: key_size - Too small\n" ++
          "Configuration Warnings:\n  - WARNING: log_file_path - Not there" ∧
      farSettings.check = .ok farSettings ∧ farSettings.LogsToText ∧
      ∃ r, farSettings.review .empty = .ok r ∧ r.accepted = .bool true ∧ r.errors = [] := by
  obtain ⟨divides, spares, -⟩ := Review.divides_and_spares
  have sound : farSettings.flaw? = none := by decide +kernel
  have accepted : farSettings.check = .ok farSettings := by rw [Settings.check, sound]
  have logs : farSettings.LogsToText := .inr ⟨_, rfl⟩
  refine ⟨?_, by decide +kernel, accepted, logs, spares .empty farSettings accepted logs⟩
  exact ((divides (.bool false) _ _).dealt_iff _ _).mpr ⟨by decide, by decide⟩

end CertMint
