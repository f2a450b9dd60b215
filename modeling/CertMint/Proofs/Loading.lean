import CertMint.CommandLine.Run
import CertMint.Proofs.Documents
import CertMint.Proofs.References
import CertMint.Proofs.Windows

/-! # Every way in which loading settings can end

Settings are loaded, or the file is missing, or something in it is refused as a wrong value. There is one
more way: an option of some section refers to what cannot be read, and the fault of that is of a kind
of its own, which nothing handles.
-/

namespace CertMint

/-- Whether a kind is that of a reference in a settings file. -/
def Fault.Kind.isReference : Fault.Kind → Bool
  | .interpolationSyntax | .interpolationMissing | .interpolationDepth => true
  | _ => false

/-- A document in which every option of every section, its own or a default, can be read. -/
def Ini.Document.Readable (doc : Ini.Document) : Prop :=
  ∀ held ∈ doc.sections, ∀ entry ∈ doc.optionsOf held.2,
    ¬ Ini.Broken (doc.optionsOf held.2) Ini.maxDepth entry.2

namespace Settings

open Ini

/-! ## Documents -/

section Documents

variable {options listed : Options} {doc : Document}
  {sections : List (String × Options)} {done : List (String × String)} {f : Fault}

theorem isReference_referenceFault (inSection option raw : String) (e : ReferenceError) :
    (referenceFault inSection option raw e).kind.isReference = true := by
  cases e <;> rfl

theorem exists_readOptions_eq_error_iff (inSection : String) :
    (∃ f, readOptions inSection options listed = .error f) ↔
      ∃ entry ∈ listed, Broken options maxDepth entry.2 := by
  induction listed with
  | nil => simp [readOptions]
  | cons entry rest ih =>
      obtain ⟨option, raw⟩ := entry
      simp only [List.mem_cons, exists_eq_or_imp]
      rw [← ih, ← exists_expand_eq_error_iff, readOptions]
      cases expand options raw with
      | error e => exact ⟨fun _ => .inl ⟨e, rfl⟩, fun _ => ⟨_, rfl⟩⟩
      | ok value =>
          simp only [reduceCtorEq, exists_false, false_or]
          cases readOptions inSection options rest <;> simp [Except.map]

theorem isReference_of_readOptions {inSection : String}
    (h : readOptions inSection options listed = .error f) : f.kind.isReference = true := by
  induction listed with
  | nil => cases h
  | cons entry rest ih =>
      obtain ⟨option, raw⟩ := entry
      rw [readOptions] at h
      split at h
      · obtain rfl := Except.error.inj h
        exact isReference_referenceFault _ _ _ _
      · cases below : readOptions inSection options rest with
        | ok =>
            rw [below] at h
            cases h
        | error f' =>
            rw [below] at h
            obtain rfl := Except.error.inj h
            exact ih below

theorem exists_readSections_eq_error_iff :
    (∃ f, readSections doc sections done = .error f) ↔
      ∃ held ∈ sections, ∃ entry ∈ doc.optionsOf held.2,
        Broken (doc.optionsOf held.2) maxDepth entry.2 := by
  induction sections generalizing done with
  | nil => simp [readSections]
  | cons entry rest ih =>
      obtain ⟨name, own⟩ := entry
      simp only [List.mem_cons, exists_eq_or_imp, readSections]
      rw [← exists_readOptions_eq_error_iff name]
      cases readOptions name (doc.optionsOf own) (doc.optionsOf own) with
      | error f => exact ⟨fun _ => .inl ⟨f, rfl⟩, fun _ => ⟨f, rfl⟩⟩
      | ok entries =>
          simp only [reduceCtorEq, exists_false, false_or, ih]

theorem isReference_of_readSections (h : readSections doc sections done = .error f) :
    f.kind.isReference = true := by
  induction sections generalizing done with
  | nil => cases h
  | cons entry rest ih =>
      obtain ⟨name, own⟩ := entry
      rw [readSections] at h
      split at h
      · next failed =>
          obtain rfl := Except.error.inj h
          exact isReference_of_readOptions failed
      · exact ih h

/-- A document is read unless it is unreadable. -/
theorem readDocument_endings (doc : Document) :
    (doc.Readable ∧ ∃ entries, readDocument doc = .ok entries) ∨
      ¬ doc.Readable ∧ ∃ f, readDocument doc = .error f ∧ f.kind.isReference = true := by
  have unreadable : (∃ f, readSections doc doc.sections [] = .error f) ↔ ¬ doc.Readable := by
    simp only [exists_readSections_eq_error_iff, Document.Readable, not_forall, not_not, exists_prop]
  rw [readDocument]
  cases read : readSections doc doc.sections [] with
  | ok entries =>
      refine .inl ⟨not_not.mp fun broken => ?_, _, rfl⟩
      obtain ⟨f, failed⟩ := unreadable.mpr broken
      cases read.symm.trans failed
  | error f => exact .inr ⟨unreadable.mp ⟨f, read⟩, f, rfl, isReference_of_readSections read⟩

end Documents

/-! ## Settings -/

section Reading

variable {t : Files.Tree} {path : String} {s s' : Settings} {entries : List (String × String)} {f : Fault}

/-- Settings whose log file is a text or nothing. -/
def LogsToText (s : Settings) : Prop := s.logFile = .none ∨ ∃ file, s.logFile = .text file

theorem isValue_of_assign (h : assign s entries = .error f) : f.kind.isValue = true := by
  induction entries generalizing s with
  | nil => cases h
  | cons entry rest ih =>
      obtain ⟨name, raw⟩ := entry
      rw [assign] at h
      split at h
      · exact ih h
      · split at h
        · exact ih h
        · obtain rfl := Except.error.inj h
          rfl

theorem logsToText_set {field : Field} {raw : String} {d : Datum} (logs : s.LogsToText)
    (converted : convert field raw = .ok d) : (s.set field d).LogsToText := by
  cases field with
  | logFile =>
      have same : (if (Text.trim raw).isEmpty then Datum.none else .text (Text.trim raw)) = d :=
        Except.ok.inj converted
      change d = .none ∨ ∃ file, d = .text file
      rw [← same]
      split
      · exact .inl rfl
      · exact .inr ⟨_, rfl⟩
  | _ => exact logs

theorem logsToText_of_assign (logs : s.LogsToText) (h : assign s entries = .ok s') : s'.LogsToText := by
  induction entries generalizing s with
  | nil =>
      obtain rfl := Except.ok.inj h
      exact logs
  | cons entry rest ih =>
      obtain ⟨name, raw⟩ := entry
      rw [assign] at h
      split at h
      · exact ih logs h
      · split at h
        · next converted => exact ih (logsToText_set logs converted) h
        · cases h

theorem isValue_of_check (h : s.check = .error f) : f.kind.isValue = true := by
  unfold check at h
  split at h
  · cases h
  · obtain rfl := Except.error.inj h
    rfl

/-- Issues that are all warnings. -/
def OnlyWarnings (issues : List Issue) : Prop := ∀ i ∈ issues, i.severity = "warning"

theorem onlyWarnings_nil : OnlyWarnings [] := fun _ member => by cases member

theorem onlyWarnings_singleton (field message : String) :
    OnlyWarnings [⟨field, message, "warning"⟩] := fun i member => by
  rw [List.mem_singleton.mp member]

theorem OnlyWarnings.append {issues more : List Issue} (h : OnlyWarnings issues)
    (h' : OnlyWarnings more) : OnlyWarnings (issues ++ more) := fun i member =>
  (List.mem_append.mp member).elim (h i) (h' i)

theorem OnlyWarnings.hasErrors_of {issues : List Issue} (h : OnlyWarnings issues) (accepted : Datum) :
    (Review.of accepted issues []).hasErrors = false := by
  have none_ : (issues ++ []).filter (fun i : Issue => i.severity == "error") = [] := by
    rw [List.append_nil, List.filter_eq_nil_iff]
    intro i member
    rw [h i member]
    decide
  rw [Review.hasErrors, Review.of, none_]
  rfl

/-- The log file of settings that log to a text is looked at without a fault. -/
theorem exists_logFileIssues (t : Files.Tree) (logs : s.LogsToText) :
    ∃ issues, logFileIssues t s.logFile = .ok issues ∧ OnlyWarnings issues := by
  rcases logs with none_ | ⟨file, text⟩
  · rw [none_]
    exact ⟨[], rfl, onlyWarnings_nil⟩
  · rw [text, logFileIssues]
    dsimp only [logPath?]
    split
    · exact ⟨[], rfl, onlyWarnings_nil⟩
    · split
      · exact ⟨[], rfl, onlyWarnings_nil⟩
      · exact ⟨_, rfl, onlyWarnings_singleton _ _⟩

/-- A review of such settings finds warnings only. -/
theorem exists_review (t : Files.Tree) (logs : s.LogsToText) :
    ∃ r, s.review t = .ok r ∧ r.hasErrors = false := by
  obtain ⟨issues, looked, warnings⟩ := exists_logFileIssues t logs
  rw [review, looked]
  refine ⟨_, rfl, OnlyWarnings.hasErrors_of ?_ _⟩
  refine .append (.append ?_ ?_) warnings
  · split
    · exact onlyWarnings_singleton _ _
    · exact onlyWarnings_nil
  · split
    · exact onlyWarnings_singleton _ _
    · exact onlyWarnings_nil

/-- Every way in which loading can end. -/
inductive Loading (t : Files.Tree) (path : String) : Except Fault (Settings × List Log.Note) → Prop where
  | missing (absent : t.exists_ path = false) :
      Loading t path (.error (.of .fileNotFound ("Configuration file not found: " ++ path)))
  /-- Something in the file is wrong, other than a reference. -/
  | refused (f : Fault) (present : t.exists_ path = true) (kind : f.kind.isValue = true)
      (readable : ∀ doc, documentAt t path = .ok doc → doc.Readable) : Loading t path (.error f)
  /-- An option of a section cannot be read. -/
  | broken (doc : Document) (f : Fault) (present : t.exists_ path = true)
      (document : documentAt t path = .ok doc) (unreadable : ¬ doc.Readable)
      (kind : f.kind.isReference = true) : Loading t path (.error f)
  | loaded (doc : Document) (entries : List (String × String)) (s : Settings) (notes : List Log.Note)
      (present : t.exists_ path = true) (document : documentAt t path = .ok doc) (readable : doc.Readable)
      (read : readDocument doc = .ok entries) (assigned : assign {} entries = .ok s)
      (accepted : s.check = .ok s) : Loading t path (.ok (s, notes))

theorem isValue_refusalFault (path : String) (r : Refusal) : (refusalFault path r).kind.isValue = true := by
  cases r <;> rfl

theorem isValue_of_documentAt (h : documentAt t path = .error f) : f.kind.isValue = true := by
  unfold documentAt at h
  split at h
  · cases h
  · split at h
    · cases h
    · obtain rfl := Except.error.inj h
      exact isValue_refusalFault _ _

/-- What loading makes of settings that were read and accepted. -/
theorem exists_load_eq_ok (read : readFile t path = .ok s) (logs : s.LogsToText) :
    ∃ notes, load t path = .ok (s, notes) := by
  obtain ⟨r, reviewed, sound⟩ := exists_review t logs
  rw [load, read, ok_bind, reviewed, ok_bind, sound]
  exact ⟨_, rfl⟩

theorem loading (t : Files.Tree) (path : String) : Loading t path (load t path) := by
  cases present : t.exists_ path with
  | false =>
      have read : readFile t path = .error _ := if_pos (by rw [present]; rfl)
      rw [load, read]
      exact .missing present
  | true =>
      have read : readFile t path = (do
          let doc ← documentAt t path
          let entries ← readDocument doc
          (← assign {} entries).check) := if_neg (by rw [present]; decide)
      cases document : documentAt t path with
      | error f =>
          rw [document] at read
          rw [load, read]
          exact .refused f present (isValue_of_documentAt document) fun doc h => by
            cases document.symm.trans h
      | ok doc =>
          have only {other : Document} (h : documentAt t path = .ok other) : doc = other :=
            Except.ok.inj (document.symm.trans h)
          rw [document, ok_bind] at read
          rcases readDocument_endings doc with ⟨readable, entries, entered⟩ | ⟨unreadable, f, failed, kind⟩
          · rw [entered, ok_bind] at read
            have fine (other : Document) (h : documentAt t path = .ok other) : other.Readable :=
              only h ▸ readable
            cases assigned : assign {} entries with
            | error f =>
                rw [assigned] at read
                rw [load, read]
                exact .refused f present (isValue_of_assign assigned) fine
            | ok s =>
                rw [assigned, ok_bind] at read
                cases checked : s.check with
                | error f =>
                    rw [checked] at read
                    rw [load, read]
                    exact .refused f present (isValue_of_check checked) fine
                | ok s' =>
                    obtain ⟨rfl, -⟩ := accepted_of_check checked
                    rw [checked] at read
                    obtain ⟨notes, eq⟩ := exists_load_eq_ok read
                      (logsToText_of_assign (.inl rfl) assigned)
                    rw [eq]
                    exact .loaded doc entries s' notes present document readable entered assigned checked
          · rw [failed] at read
            rw [load, read]
            exact .broken doc f present document unreadable kind

end Reading

/-! ## What is not handled -/

open CommandLine

theorem isSettingsFault_of_isReference {k : Fault.Kind} (h : k.isReference = true) :
    isSettingsFault k = false := by
  cases k <;> first | rfl | cases h

theorem isFileNotFound_of_isValue {k : Fault.Kind} (h : k.isValue = true) : k.isFileNotFound = false := by
  induction k with
  | derived k _ _ ih => exact ih h
  | _ => first | rfl | cases h

namespace Loading

variable {t : Files.Tree} {path : String} {r : Except Fault (Settings × List Log.Note)}

theorem escapes_iff (h : Loading t path r) :
    (∃ f, r = .error f ∧ isSettingsFault f.kind = false) ↔
      t.exists_ path = true ∧ ∃ doc, documentAt t path = .ok doc ∧ ¬ doc.Readable := by
  cases h with
  | missing absent =>
      exact ⟨fun ⟨_, same, other⟩ => (by cases same; cases other),
        fun ⟨present, _⟩ => (by cases absent.symm.trans present)⟩
  | refused f present kind readable =>
      refine ⟨fun ⟨_, same, other⟩ => ?_, fun ⟨_, doc, document, unreadable⟩ =>
        absurd (readable doc document) unreadable⟩
      obtain rfl := Except.error.inj same
      rw [isSettingsFault, kind, Bool.or_true] at other
      cases other
  | broken doc f present document unreadable kind =>
      exact ⟨fun _ => ⟨present, doc, document, unreadable⟩,
        fun _ => ⟨f, rfl, isSettingsFault_of_isReference kind⟩⟩
  | loaded doc entries s notes present document readable =>
      refine ⟨fun ⟨_, same, _⟩ => (by cases same), fun ⟨_, other, document', unreadable⟩ => ?_⟩
      obtain rfl := Except.ok.inj (document.symm.trans document')
      exact absurd readable unreadable

theorem missing_iff (h : Loading t path r) :
    (∃ f, r = .error f ∧ f.kind.isFileNotFound = true) ↔ t.exists_ path = false := by
  cases h with
  | missing absent => exact ⟨fun _ => absent, fun _ => ⟨_, rfl, rfl⟩⟩
  | refused f present kind =>
      refine ⟨fun ⟨_, same, other⟩ => ?_, fun absent => (by cases present.symm.trans absent)⟩
      obtain rfl := Except.error.inj same
      cases (isFileNotFound_of_isValue kind).symm.trans other
  | broken doc f present document unreadable kind =>
      refine ⟨fun ⟨_, same, other⟩ => ?_, fun absent => (by cases present.symm.trans absent)⟩
      obtain rfl := Except.error.inj same
      have escapes := isSettingsFault_of_isReference kind
      rw [isSettingsFault, other, Bool.true_or] at escapes
      cases escapes
  | loaded doc entries s notes present =>
      exact ⟨fun ⟨_, same, _⟩ => (by cases same), fun absent => (by cases present.symm.trans absent)⟩

theorem kind_of_error {f : Fault} (h : Loading t path (.error f)) :
    f.kind.isFileNotFound = true ∨ f.kind.isValue = true ∨ f.kind.isReference = true := by
  cases h with
  | missing => exact .inl rfl
  | refused _ _ kind => exact .inr (.inl kind)
  | broken _ _ _ _ _ kind => exact .inr (.inr kind)

theorem check_of_ok {s : Settings} {notes : List Log.Note} (h : Loading t path (.ok (s, notes))) :
    s.check = .ok s := by
  cases h with
  | loaded _ _ _ _ _ _ _ _ _ accepted => exact accepted

end Loading

/-- A request for settings that cannot be loaded ends with status 1, or with the fault itself where that
    is not one of settings. -/
theorem ending_of_load {request : Request} {o : Log.Outlets} {w : Workshop} {path : String} {f : Fault}
    (asked : request.config = some path) (full : path ≠ "") (failed : load o.files path = .error f) :
    (perform request o w).ending = if isSettingsFault f.kind then .status 1 else .fault f := by
  have given : request.config.filter (!·.isEmpty) = some path := by
    rw [asked, Option.filter_some, if_pos]
    simpa using full
  have loaded : loadWith o.files request.config request.level = (.error f, []) := by
    simp only [loadWith, given, failed]
  simp only [perform, loaded]
  split <;> rfl

/-- Loading settings ends with settings that pass their check, with a missing file exactly when there is
    nothing at the path, or with a wrong value, and the program ends with status 1 in the last two cases.
    It ends with another fault exactly when an option of some section, its own or a default, cannot be
    read. The program ends with this fault in place of a status. -/
theorem load_escapes_iff (o : Log.Outlets) (path : String) :
    ((∃ f, load o.files path = .error f ∧ isSettingsFault f.kind = false) ↔
      o.files.exists_ path = true ∧ ∃ doc, documentAt o.files path = .ok doc ∧ ¬ doc.Readable) ∧
    ((∃ f, load o.files path = .error f ∧ f.kind.isFileNotFound = true) ↔
      o.files.exists_ path = false) ∧
    (∀ f, load o.files path = .error f →
      f.kind.isFileNotFound = true ∨ f.kind.isValue = true ∨ f.kind.isReference = true) ∧
    (∀ s notes, load o.files path = .ok (s, notes) → s.check = .ok s) ∧
    ∀ (request : Request) (w : Workshop) (f : Fault), request.config = some path → path ≠ "" →
      load o.files path = .error f →
      (perform request o w).ending = if isSettingsFault f.kind then .status 1 else .fault f := by
  have ends := loading o.files path
  refine ⟨ends.escapes_iff, ends.missing_iff, fun f failed => ?_, fun s notes read => ?_,
    fun request w f => ending_of_load⟩
  · rw [failed] at ends
    exact ends.kind_of_error
  · rw [read] at ends
    exact ends.check_of_ok

/-! ### A stray percent sign -/

/-- A tree with a file that sets one option, whose value has a percent sign that begins nothing. -/
def strayTree : Files.Tree :=
  ⟨[(Files.Place.here.child "c.ini", .file (Text.utf8 "[app]\nlog_file_path = 100%\n").toByteArray)]⟩

def strayOutlets : Log.Outlets := { files := strayTree, directory := "" }

/-- A request for settings at a path. -/
def requestFor (path : String) : Request := ⟨some .selfSigned, some path, false, none⟩

/-- Whether loading ends with a fault of settings (`some true`) or with another fault (`some false`). -/
def faultOfLoad (t : Files.Tree) (path : String) : Option Bool :=
  match load t path with
  | .error f => some (isSettingsFault f.kind)
  | .ok _ => none

theorem exists_of_faultOfLoad {t : Files.Tree} {path : String} {contained : Bool}
    (h : faultOfLoad t path = some contained) :
    ∃ f, load t path = .error f ∧ isSettingsFault f.kind = contained := by
  unfold faultOfLoad at h
  split at h
  · next f failed => exact ⟨f, failed, Option.some.inj h⟩
  · cases h

theorem faultOfLoad_stray : faultOfLoad strayTree "c.ini" = some false := by
  decide +kernel

/-- A workshop with nothing in it. -/
def bareWorkshop : Workshop where
  keys := []
  serials := []
  clock _ := none
  seconds := []
  stamp := ⟨0, some 0⟩
  engine := .ok ⟨"", fun _ => true⟩
  registered := true

/-- The program reports that a file is missing. It does not report the percent sign. -/
theorem load_escapes_iff_stray :
    (perform (requestFor "d.ini") strayOutlets bareWorkshop).ending = .status 1 ∧
    ∃ f, load strayTree "c.ini" = .error f ∧ f.kind.isReference = true ∧
      (perform (requestFor "c.ini") strayOutlets bareWorkshop).ending = .fault f := by
  constructor
  · obtain ⟨-, missing, -, -, ending⟩ := load_escapes_iff strayOutlets "d.ini"
    obtain ⟨f, failed, kind⟩ := missing.mpr (by decide +kernel)
    rw [ending (requestFor "d.ini") bareWorkshop f rfl (by decide) failed, isSettingsFault, kind]
    rfl
  · obtain ⟨f, failed, escapes⟩ := exists_of_faultOfLoad faultOfLoad_stray
    obtain ⟨-, -, kinds, -, ending⟩ := load_escapes_iff strayOutlets "c.ini"
    obtain ⟨notMissing, notValue⟩ := Bool.or_eq_false_iff.mp escapes
    refine ⟨f, failed, ?_, ?_⟩
    · rcases kinds f failed with kind | kind | kind
      · cases notMissing.symm.trans kind
      · cases notValue.symm.trans kind
      · exact kind
    · rw [ending (requestFor "c.ini") bareWorkshop f rfl (by decide) failed, escapes]
      rfl

/-- There is a file at the path, and the fault of loading it is neither that of a missing file nor that
    of a wrong value. The program ends with it. -/
theorem stray_not_contained :
    strayTree.exists_ "c.ini" = true ∧
    ∃ f, load strayTree "c.ini" = .error f ∧ f.kind.isFileNotFound = false ∧ f.kind.isValue = false ∧
      (perform (requestFor "c.ini") strayOutlets bareWorkshop).ending = .fault f := by
  obtain ⟨f, failed, escapes⟩ := exists_of_faultOfLoad faultOfLoad_stray
  obtain ⟨notMissing, notValue⟩ := Bool.or_eq_false_iff.mp escapes
  have ending : (perform (requestFor "c.ini") strayOutlets bareWorkshop).ending = _ :=
    ending_of_load rfl (by decide) failed
  refine ⟨by decide +kernel, f, failed, notMissing, notValue, ?_⟩
  rw [ending, escapes]
  rfl

end Settings

end CertMint
