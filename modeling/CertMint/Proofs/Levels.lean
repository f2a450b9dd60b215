import CertMint.Proofs.Arguments
import CertMint.Proofs.Handlers
import CertMint.Proofs.Loading
import CertMint.Proofs.Runs
import CertMint.Proofs.Success

/-! # The log level of a run

The log level says which notes get to the console and to the log file. Nothing else hangs on it: settings
that differ in the level only are accepted alike, logging is set up for them alike, and the same fixture is
made and written.
-/

namespace CertMint

/-! ## Settings at another level -/

namespace Settings

/-- The settings with another log level. -/
def leveled (s : Settings) (level : String) : Settings := { s with logLevel := .text level }

theorem any_logLevels {level : String} (known : level ∈ logLevels) :
    logLevels.any (fun l => Datum.same (.text level) (.text l)) = true := by
  apply List.any_eq_true.mpr
  exact ⟨level, known, by simp [Datum.same]⟩

/-- Settings without a flaw have a known level, and have no flaw at another one. -/
theorem flaw?_leveled {s : Settings} (sound : s.flaw? = none) :
    (∃ level ∈ logLevels, s = s.leveled level) ∧
      ∀ level ∈ logLevels, (s.leveled level).flaw? = none := by
  obtain ⟨keySize, rest⟩ := of_unless sound
  obtain ⟨publicExponent, rest⟩ := of_unless rest
  obtain ⟨signatureHash, rest⟩ := of_unless rest
  obtain ⟨validNotBefore, rest⟩ := of_unless rest
  obtain ⟨validNotAfter, rest⟩ := of_unless rest
  obtain ⟨expiredNotAfter, rest⟩ := of_unless rest
  obtain ⟨expiredNotBefore, rest⟩ := of_unless rest
  obtain ⟨logLevel, -⟩ := of_unless rest
  constructor
  · obtain ⟨level, known, same⟩ := List.any_eq_true.mp logLevel
    refine ⟨level, known, ?_⟩
    rw [leveled, ← eq_text_of_same same]
  · intro level known
    simp only [flaw?, leveled, keySize, publicExponent, signatureHash, validNotBefore, validNotAfter,
      expiredNotAfter, expiredNotBefore, any_logLevels known, Bool.not_true, Bool.false_eq_true, if_false]

theorem check_leveled {s : Settings} {level : String} (sound : s.flaw? = none) (known : level ∈ logLevels) :
    (s.leveled level).check = .ok (s.leveled level) := by
  obtain ⟨-, others⟩ := flaw?_leveled sound
  rw [check, others level known]

theorem upper_of_mem_logLevels {level : String} (known : level ∈ logLevels) :
    Text.upper level = level ∧ level.isEmpty = false := by
  have all : ∀ l ∈ logLevels, Text.upper l = l ∧ l.isEmpty = false := by decide +kernel
  exact all level known

theorem load_flaw? {t : Files.Tree} {path : String} {s : Settings} {notes : List Log.Note}
    (h : load t path = .ok (s, notes)) : s.flaw? = none := by
  have ends := loading t path
  rw [h] at ends
  have checked := ends.check_of_ok
  unfold check at checked
  split at checked
  · assumption
  · cases checked

/-- What is loaded, as long as no level is put into it. -/
def loadedAt (t : Files.Tree) (path : Option String) : Except Fault (Settings × List Log.Note) :=
  match path.filter (!·.isEmpty) with
  | some path => load t path
  | none => .ok ({}, [])

theorem loadedAt_flaw? {t : Files.Tree} {path : Option String} {s : Settings} {notes : List Log.Note}
    (h : loadedAt t path = .ok (s, notes)) : s.flaw? = none := by
  unfold loadedAt at h
  split at h
  · exact load_flaw? h
  · obtain rfl := (Prod.mk.inj (Except.ok.inj h)).1
    rfl

theorem loadWith_eq (t : Files.Tree) (path level : Option String) :
    loadWith t path level = match loadedAt t path with
      | .error f => (.error f, [])
      | .ok (s, notes) => match level.filter (!·.isEmpty) with
        | some level => ((s.leveled (Text.upper level)).check, notes)
        | none => (.ok s, notes) := rfl

theorem loadWith_of_error {t : Files.Tree} {path : Option String} {f : Fault}
    (h : loadedAt t path = .error f) (level : Option String) : loadWith t path level = (.error f, []) := by
  rw [loadWith_eq, h]

/-- Of the settings of a run the level is the only thing that its command line decides. -/
theorem exists_loadWith_of_ok {t : Files.Tree} {path : Option String} {s : Settings}
    {notes : List Log.Note} (h : loadedAt t path = .ok (s, notes)) {level : Option String}
    (known : Known level) : ∃ l ∈ logLevels, loadWith t path level = (.ok (s.leveled l), notes) := by
  have sound := loadedAt_flaw? h
  rw [loadWith_eq, h]
  cases level with
  | none =>
      obtain ⟨⟨own, ownKnown, same⟩, -⟩ := flaw?_leveled sound
      exact ⟨own, ownKnown, by rw [← same]; rfl⟩
  | some l =>
      obtain ⟨upper, full⟩ := upper_of_mem_logLevels (known l rfl)
      have asked : (some l).filter (!·.isEmpty) = some l := by simp [Option.filter, full]
      refine ⟨l, known l rfl, ?_⟩
      simp only [asked, upper, check_leveled sound (known l rfl)]

end Settings

/-! ## Logging at another level -/

namespace Log.Outlets

theorem exists_rankOf {level : String} (known : level ∈ Settings.logLevels) :
    ∃ rank, rankOf (.text level) = .ok rank := by
  have unlike : ∀ l ∈ Settings.logLevels, Text.upper l ≠ formatName := by decide +kernel
  exact ⟨_, if_neg (unlike level known)⟩

/-- Open a log file of whatever level. -/
def openPlace (directory path : String) : Files.Change (String × Files.Place) := do
  Files.Change.makeHolder path
  let normal := Files.normal path
  match (← get).openFile (if normal.isEmpty then "." else normal) with
  | .ok (place, t) =>
    set t
    return (normal, place)
  | .error r => throw (r.fault (fullPath directory normal))

theorem openLog_eq (directory path : String) (level : Int) : openLog directory path level =
    (fun opened => Outlet.file level opened.1 opened.2) <$> openPlace directory path := by
  simp only [openLog, openPlace, map_bind]
  apply bind_congr
  intro _
  apply bind_congr
  intro t
  cases t.openFile (if (Files.normal path).isEmpty then "." else Files.normal path) <;> rfl

theorem run_openLog (directory path : String) (level : Int) (t : Files.Tree) :
    (openLog directory path level).run t = match (openPlace directory path).run t with
      | (.ok opened, t') => (.ok (.file level opened.1 opened.2), t')
      | (.error f, t') => (.error f, t') := by
  rw [openLog_eq]
  simp only [ExceptT.run, Functor.map, ExceptT.map, ExceptT.mk, bind, StateT.bind]
  rcases openPlace directory path t with ⟨_ | _, _⟩ <;> rfl

/-- Whether logging can be set up does not hang on the level. -/
theorem configure_levels (o : Outlets) {level level' : String} (known : level ∈ Settings.logLevels)
    (known' : level' ∈ Settings.logLevels) (logFile : Datum) :
    (o.configure (.text level) logFile).1 = (o.configure (.text level') logFile).1 := by
  obtain ⟨rank, ranked⟩ := exists_rankOf known
  obtain ⟨rank', ranked'⟩ := exists_rankOf known'
  simp only [configure_of_rank o logFile ranked, configure_of_rank o logFile ranked', run_openLog]
  split
  · rfl
  · split
    · rfl
    · next path _ =>
        rcases (openPlace o.directory path).run o.files with ⟨_ | _, _⟩ <;> rfl

end Log.Outlets

/-! ## Minting at another level -/

namespace Mint

variable (s : Settings) (level : String)

/-- The facade with another log level. -/
def Facade.leveled (f : Facade) : Facade := { f with settings := f.settings.leveled level }

theorem certificatesFrom_leveled (f : Facade) (invalid : Datum) (issuer subject : Rsa.KeyPair)
    (position : Nat) : (f.leveled level).builder.certificatesFrom invalid issuer subject position =
      f.builder.certificatesFrom invalid issuer subject position := by
  apply Builder.certificatesFrom_congr
  · rfl
  · rfl

theorem chain_leveled (f : Facade) (invalid : Datum) :
    (f.leveled level).builder.chain invalid = f.builder.chain invalid := by
  simp only [Builder.chain, certificatesFrom_leveled]
  rfl

/-- The fixtures of a facade do not hang on the level. -/
theorem generate_leveled (f : Facade) (kind : Scenario) :
    (f.leveled level).generate kind = f.generate kind := by
  cases kind <;> simp only [Facade.generate, Builder.fixture, chain_leveled]
  all_goals rfl

theorem wire_leveled (measures : Bool) :
    Facade.wire (s.leveled level) measures = Facade.leveled level <$> Facade.wire s measures := by
  simp only [Facade.wire, Builder.make, Forge.make, map_bind, map_pure, bind_assoc, pure_bind]
  rfl

end Mint

namespace CommandLine

open Mint

variable {r r' : Request} {o : Log.Outlets} {w : Workshop}

theorem mint_leveled (s : Settings) (level : String) (scenario : Option Scenario) :
    mint (s.leveled level) scenario = mint s scenario := by
  simp only [mint, wire_leveled, map_eq_pure_bind, bind_assoc, pure_bind]
  apply bind_congr
  intro facade
  cases scenario with
  | none => rfl
  | some kind => exact generate_leveled level facade kind

/-! ## Runs at two levels -/

/-- Two runs that end alike, with the same output and the same workshop. Their notes may have gone to
    other places. -/
def Run.Agrees (run run' : Run) : Prop := run'.Left run.ending run.output run.workshop

theorem produce_agrees (r : Request) (level level' : Option String) (s : Settings) (l l' : String)
    (o o' : Log.Outlets) (w : Workshop) :
    (produce { r with level } (s.leveled l) o w).Agrees
      (produce { r with level := level' } (s.leveled l') o' w) := by
  simp only [produce, mint_leveled]
  rcases (mint s r.scenario).perform w with ⟨f | fixture, w₁⟩
  · dsimp only
    split <;> exact ⟨rfl, rfl, rfl⟩
  · dsimp only
    rcases (render fixture r.describe).perform w₁ with ⟨f | text, w₂⟩ <;> exact ⟨rfl, rfl, rfl⟩

theorem runWith_agrees (r : Request) (level level' : Option String) (s : Settings) {l l' : String}
    (known : l ∈ Settings.logLevels) (known' : l' ∈ Settings.logLevels) (o : Log.Outlets) (w : Workshop) :
    (runWith { r with level } (s.leveled l) o w).Agrees
      (runWith { r with level := level' } (s.leveled l') o w) := by
  have same := Log.Outlets.configure_levels o known known' s.logFile
  simp only [runWith, Settings.leveled] at same ⊢
  rcases one : o.configure (.text l) s.logFile with ⟨f | _, o₁⟩ <;>
    rcases other : o.configure (.text l') s.logFile with ⟨f' | _, o₂⟩ <;> rw [one, other] at same
  · obtain rfl := Except.error.inj same
    dsimp only
    split <;> exact ⟨rfl, rfl, rfl⟩
  · cases same
  · cases same
  · exact produce_agrees r level level' s l l' o₁ o₂ w

theorem perform_agrees (r : Request) {level level' : Option String} (known : Settings.Known level)
    (known' : Settings.Known level') (o : Log.Outlets) (w : Workshop) :
    (perform { r with level } o w).Agrees (perform { r with level := level' } o w) := by
  cases loaded : Settings.loadedAt o.files r.config with
  | error f =>
      simp only [perform, Settings.loadWith_of_error loaded]
      split <;> exact ⟨rfl, rfl, rfl⟩
  | ok result =>
      obtain ⟨s, notes⟩ := result
      obtain ⟨l, member, one⟩ := Settings.exists_loadWith_of_ok loaded known
      obtain ⟨l', member', other⟩ := Settings.exists_loadWith_of_ok loaded known'
      simp only [perform, one, other]
      exact runWith_agrees r level level' s member member' _ w

/-! ## Levels on the command line -/

/-- Two command lines whose requests differ in the level at most. -/
def SameButLevel (texts texts' : List String) : Prop :=
  ∃ r level, Request.ofTexts texts = .ok r ∧ Request.ofTexts texts' = .ok { r with level }

/-- Runs whose command lines differ in the level at most end alike and leave the same behind, apart from
    what was logged. A level at the end of a command line makes such a difference. -/
theorem run_agrees_at_levels {texts : List String} {r : Request} (read : Request.ofTexts texts = .ok r)
    (o : Log.Outlets) (w : Workshop) :
    (∀ texts', SameButLevel texts texts' → (run texts o w).Agrees (run texts' o w)) ∧
      ∀ level ∈ Settings.logLevels, SameButLevel texts (texts ++ ["--log-level", level]) := by
  constructor
  · rintro texts' ⟨r', level, one, other⟩
    rw [run_of_request one, run_of_request other]
    exact perform_agrees r' (known_of_ofTexts one) (known_of_ofTexts other) o w
  · intro level known
    exact ⟨r, some level, read, ofTexts_append_level read known⟩

/-- Both runs get to the end. -/
theorem run_agrees_at_levels_selfSigned :
    Request.ofTexts ["-s", "self-signed"] = .ok ⟨some .selfSigned, none, false, none⟩ ∧
    (run ["-s", "self-signed"] Settings.strayOutlets stockedWorkshop).Agrees
      (run ["-s", "self-signed", "--log-level", "DEBUG"] Settings.strayOutlets stockedWorkshop) ∧
    (run ["-s", "self-signed"] Settings.strayOutlets stockedWorkshop).ending = .status 0 ∧
    (run ["-s", "self-signed", "--log-level", "DEBUG"] Settings.strayOutlets stockedWorkshop).ending =
      .status 0 := by
  have read : Request.ofTexts ["-s", "self-signed"] = .ok ⟨some .selfSigned, none, false, none⟩ := by
    decide +kernel
  obtain ⟨agrees, others⟩ := run_agrees_at_levels read Settings.strayOutlets stockedWorkshop
  have both := agrees _ (others "DEBUG" (by decide))
  have done : (run ["-s", "self-signed"] Settings.strayOutlets stockedWorkshop).ending = .status 0 := by
    rw [run_of_request read, perform_done_stocked]
  exact ⟨read, both, done, both.ending_eq.trans done⟩

end CommandLine

end CertMint
