import CertMint.Proofs.Levels
import CertMint.Proofs.Saving
import CertMint.Proofs.Trees

/-! # Logging that is set up again

However often logging is set up, and whatever was attached before, what is attached afterwards is what the
last settings ask for. Files may change between two times, records may be handled, and others may attach
handlers of their own.
-/

namespace CertMint.Log

/-! ## Ranks of accepted levels -/

/-- The rank of the level that settings have: ten for the least grave, and ten more for each that is graver. -/
def RankedBy (s : Settings) (rank : Int) : Prop :=
  ∃ (i : Nat) (name : String), Settings.logLevels[i]? = some name ∧ s.logLevel = .text name ∧
    rank = 10 * (i + 1)

namespace Outlets

theorem rankOf_logLevels {i : Nat} {name : String} (at_ : Settings.logLevels[i]? = some name) :
    rankOf (.text name) = .ok (10 * (i + 1)) := by
  have listed : ∀ p ∈ Settings.logLevels.zipIdx, ranks.lookup p.1 = some (10 * ((p.2 : Int) + 1)) := by
    decide
  have unlike : ∀ l ∈ Settings.logLevels, l ≠ formatName := by decide
  have member := List.mem_of_getElem? at_
  obtain ⟨upper, -⟩ := Settings.upper_of_mem_logLevels member
  simp only [rankOf, upper, if_neg (unlike name member)]
  rw [listed (name, i) (List.mem_zipIdx_iff_getElem?.mpr at_)]
  rfl

theorem exists_rankedBy {s : Settings} (accepted : s.check = .ok s) :
    ∃ rank, rankOf s.logLevel = .ok rank ∧ RankedBy s rank := by
  obtain ⟨name, member, same⟩ := Settings.exists_logLevel accepted
  obtain ⟨i, at_⟩ := List.mem_iff_getElem?.mp member
  exact ⟨_, same ▸ rankOf_logLevels at_, i, name, at_, same, rfl⟩

/-! ## What is made -/

@[simp] theorem made_give (o : Outlets) (r : Record) (outlet : Outlet) : (o.give r outlet).made = o.made := by
  cases outlet with
  | console level =>
      rw [give]
      split
      · rfl
      · split <;> rfl
  | file level path place =>
      rw [give]
      split
      · rfl
      · split <;> rfl

/-- Handling a record makes no handlers. -/
@[simp] theorem made_handle (o : Outlets) (r : Record) : (o.handle r).made = o.made := by
  have given (outlets : List Outlet) (o : Outlets) :
      (outlets.foldl (fun o outlet => o.give r outlet) o).made = o.made := by
    induction outlets generalizing o with
    | nil => rfl
    | cons outlet rest ih => exact (ih _).trans (made_give o r outlet)
  rw [handle]
  split
  · rfl
  · split
    · split
      · rfl
      · split <;> rfl
    · exact given _ o

/-! ## How setting up ends -/

/-- A log file that was opened is the one of the path, and it is there. -/
theorem exists_of_openLog {directory path : String} {level : Int} {t t' : Files.Tree} {outlet : Outlet}
    (h : (openLog directory path level).run t = (.ok outlet, t')) :
    ∃ place content, outlet = .file level (Files.normal path) place ∧
      t'.find? place = some (.file content) := by
  rw [openLog] at h
  obtain ⟨_, t₁, -, h⟩ := Files.Change.exists_of_run_bind h
  obtain ⟨_, _, got, h⟩ := Files.Change.exists_of_run_bind h
  obtain ⟨same, rfl⟩ := Prod.mk.inj got
  obtain rfl := Except.ok.inj same
  split at h
  · next place t₂ opened =>
      obtain ⟨same, rfl⟩ := Prod.mk.inj h
      obtain ⟨_, _, content, -, -, puts⟩ := Files.Tree.exists_puts_of_openFile opened
      exact ⟨place, content, (Except.ok.inj same).symm, puts.at_⟩
  · cases (Prod.mk.inj h).1

/-- Every way in which setting up logging can end, once the level has a rank. -/
inductive Configured (o : Outlets) (rank : Int) (logFile : Datum) (after : Outlets) : Except Fault Unit → Prop where
  | console (unnamed : logFile.truthy = false) (after_eq : after = o.consoleOnly rank) :
      Configured o rank logFile after (.ok ())
  | file (path : String) (outlet : Outlet) (files : Files.Tree) (named : logFile.truthy = true)
      (text : logFile = .text path) (opened : (openLog o.directory path rank).run o.files = (.ok outlet, files))
      (after_eq : after = { o.consoleOnly rank with files }.attachNew (some outlet)) :
      Configured o rank logFile after (.ok ())
  | failed (f : Fault) (files : Files.Tree) (named : logFile.truthy = true)
      (after_eq : after = { o.consoleOnly rank with files }) : Configured o rank logFile after (.error f)

theorem Configured.made_le {o after : Outlets} {rank : Int} {logFile : Datum} {answer : Except Fault Unit}
    (h : Configured o rank logFile after answer) : o.made ≤ after.made := by
  cases h with
  | console _ same =>
      rw [same, made_consoleOnly]
      exact Nat.le_succ _
  | file _ _ _ _ _ _ same =>
      rw [same, made_attachNew, made_consoleOnly]
      exact Nat.le_add_right _ 2
  | failed _ _ _ same =>
      rw [same, made_consoleOnly]
      exact Nat.le_succ _

theorem eq_text_of_pathOf {d : Datum} {path : String} (h : pathOf d = .ok path) : d = .text path := by
  cases d with
  | text s => exact congrArg Datum.text (Except.ok.inj h)
  | _ => cases h

theorem configured (o : Outlets) {logLevel : Datum} {rank : Int} (ranked : rankOf logLevel = .ok rank)
    (logFile : Datum) :
    Configured o rank logFile (o.configure logLevel logFile).2 (o.configure logLevel logFile).1 := by
  rw [configure_of_rank o logFile ranked]
  cases named : logFile.truthy with
  | false => exact .console named rfl
  | true =>
      simp only [Bool.not_true, Bool.false_eq_true, if_false]
      cases isPath : pathOf logFile with
      | error f => exact .failed f (o.consoleOnly rank).files named rfl
      | ok path =>
          dsimp only
          rcases opened : (openLog o.directory path rank).run o.files with ⟨f | outlet, files⟩
          · exact .failed f files named rfl
          · exact .file path outlet files named (eq_text_of_pathOf isPath) opened rfl

/-- No handler is attached in both. -/
def Apart (o o' : Outlets) : Prop := ∀ h ∈ o.handlers, ∀ k ∈ o'.handlers, h.number ≠ k.number

end Outlets

/-! ## Setting up once -/

/-- Logging that is set up: the outlets before, what is asked for and answered, and the outlets after. -/
structure Setup where
  before : Outlets
  settings : Settings
  answer : Except Fault Unit
  after : Outlets

namespace Setup

def of (o : Outlets) (s : Settings) : Setup :=
  let (answer, after) := o.configure s.logLevel s.logFile
  ⟨o, s, answer, after⟩

/-- What is attached in the end, in order. -/
def attached (c : Setup) : List (Option Outlet) := c.after.handlers.map (·.outlet)

/-- What is attached is what the settings ask for, at their level, and it was all made for them. -/
structure Renewed (c : Setup) : Prop where
  ranked : RankedBy c.settings c.after.level
  fresh : ∀ h ∈ c.after.handlers, c.before.made ≤ h.number
  /-- Without a log file nothing fails. -/
  console : c.settings.logFile.truthy = false →
    c.answer = .ok () ∧ c.attached = [some (.console c.after.level)]
  /-- The log file has been opened, and is there. -/
  file : c.settings.logFile.truthy = true → c.answer = .ok () →
    ∃ path place content, c.settings.logFile = .text path ∧
      c.attached = [some (.console c.after.level), some (.file c.after.level (Files.normal path) place)] ∧
      c.after.files.find? place = some (.file content)
  /-- A log file that cannot be opened leaves the console. -/
  failed : ∀ f, c.answer = .error f → c.attached = [some (.console c.after.level)]

theorem renewed_of (o : Outlets) {s : Settings} (accepted : s.check = .ok s) : (Setup.of o s).Renewed := by
  obtain ⟨rank, ranked, rankedBy⟩ := Outlets.exists_rankedBy accepted
  have ends := Outlets.configured o ranked s.logFile
  rw [of]
  generalize o.configure s.logLevel s.logFile = result at ends ⊢
  obtain ⟨answer, after⟩ := result
  cases ends with
  | console unnamed after_eq =>
      subst after_eq
      exact {
        ranked := by simpa using rankedBy
        fresh := by simp
        console := by simp [attached]
        file := fun named => by simp [unnamed] at named
        failed := fun f same => by cases same }
  | file path outlet files named text opened after_eq =>
      subst after_eq
      obtain ⟨place, content, rfl, there⟩ := Outlets.exists_of_openLog opened
      exact {
        ranked := by simpa using rankedBy
        fresh := by simp
        console := fun unnamed => by simp [named] at unnamed
        file := fun _ _ => ⟨path, place, content, text, by simp [attached], by simpa using there⟩
        failed := fun f same => by cases same }
  | failed f files named after_eq =>
      subst after_eq
      exact {
        ranked := by simpa using rankedBy
        fresh := by simp
        console := fun unnamed => by simp [named] at unnamed
        file := fun _ same => by cases same
        failed := fun f same => by simp [attached] }

/-- What was attached before is not among it. -/
theorem Renewed.apart {c : Setup} {o : Outlets} (h : c.Renewed) (earlier : o.made ≤ c.before.made) :
    o.Apart c.after := by
  intro k attached k' attached'
  have old := o.number_lt k attached
  have new := h.fresh k' attached'
  omega

end Setup

/-! ## Setting up again and again -/

/-- What happens to the outlets of a program. -/
inductive Event where
  | configure (s : Settings)
  | handle (r : Record)
  /-- Someone else makes a handler and attaches it. -/
  | attach (outlet : Option Outlet)
  | change (f : Files.Tree → Files.Tree)

/-- The settings that logging is set up for. -/
def Event.settings? : Event → Option Settings
  | .configure s => some s
  | _ => none

namespace Outlets

def meet (o : Outlets) : Event → Outlets
  | .configure s => (Setup.of o s).after
  | .handle r => o.handle r
  | .attach outlet => o.attachNew outlet
  | .change f => { o with files := f o.files }

/-- Each time that logging is set up on the way. -/
def setups (o : Outlets) : List Event → List Setup
  | [] => []
  | e :: rest => (e.settings?.map (Setup.of o)).toList ++ (o.meet e).setups rest

variable {o : Outlets} {events : List Event} {c : Setup}

theorem made_le_configure (o : Outlets) (logLevel logFile : Datum) :
    o.made ≤ (o.configure logLevel logFile).2.made := by
  cases ranked : rankOf logLevel with
  | error f =>
      have ends : o.configure logLevel logFile = (.error f, o.cleared) := by
        rw [configure, ranked, detachAll_eq]
      rw [ends]
      exact Nat.le_refl o.made
  | ok rank => exact (configured o ranked logFile).made_le

theorem made_le_meet (o : Outlets) (e : Event) : o.made ≤ (o.meet e).made := by
  cases e with
  | configure s => exact made_le_configure o s.logLevel s.logFile
  | handle r => exact Nat.le_of_eq (made_handle o r).symm
  | attach outlet => exact Nat.le_of_lt (by rw [meet, made_attachNew]; exact Nat.lt_succ_self _)
  | change f => exact Nat.le_refl _

theorem eq_of_mem_setup {e : Event} (h : c ∈ (e.settings?.map (Setup.of o)).toList) :
    ∃ s, e = .configure s ∧ c = .of o s := by
  cases e with
  | configure s => exact ⟨s, rfl, List.mem_singleton.mp h⟩
  | _ => cases h

theorem settings_setups (o : Outlets) (events : List Event) :
    (o.setups events).map (·.settings) = events.filterMap Event.settings? := by
  induction events generalizing o with
  | nil => rfl
  | cons e rest ih =>
      cases e with
      | configure s => exact congrArg (s :: ·) (ih _)
      | _ => exact ih _

theorem made_le_before (member : c ∈ o.setups events) : o.made ≤ c.before.made := by
  induction events generalizing o with
  | nil => cases member
  | cons e rest ih =>
      rcases List.mem_append.mp member with now | later
      · obtain ⟨s, rfl, rfl⟩ := eq_of_mem_setup now
        exact Nat.le_refl _
      · exact (made_le_meet o e).trans (ih later)

theorem renewed_of_mem (accepted : ∀ s, .configure s ∈ events → s.check = .ok s)
    (member : c ∈ o.setups events) : c.Renewed := by
  induction events generalizing o with
  | nil => cases member
  | cons e rest ih =>
      rcases List.mem_append.mp member with now | later
      · obtain ⟨s, rfl, rfl⟩ := eq_of_mem_setup now
        exact Setup.renewed_of o (accepted s List.mem_cons_self)
      · exact ih (fun s later => accepted s (List.mem_cons_of_mem e later)) later

theorem pairwise_apart (accepted : ∀ s, .configure s ∈ events → s.check = .ok s) :
    (o.setups events).Pairwise fun c c' => Apart c.after c'.after := by
  induction events generalizing o with
  | nil => exact .nil
  | cons e rest ih =>
      have accepted' : ∀ s, .configure s ∈ rest → s.check = .ok s := fun s later =>
        accepted s (List.mem_cons_of_mem e later)
      -- what is set up later makes its own handlers, after those that are attached by now
      refine List.pairwise_append.mpr ⟨?_, ih accepted', ?_⟩
      · cases e.settings? with
        | none => exact .nil
        | some s => exact List.pairwise_singleton _ _
      · intro c now c' later
        obtain ⟨s, rfl, rfl⟩ := eq_of_mem_setup now
        exact (renewed_of_mem accepted' later).apart (made_le_before later)

/-- Each time that logging is set up for accepted settings, however often and whatever was attached before,
    what is attached afterwards is what the settings ask for: a handler for the console and, unless the log
    file cannot be opened, one for the log file that they name, both at their level. Nothing of it was
    attached in the beginning or at an earlier time. -/
theorem renewed_of_events (o : Outlets) {events : List Event}
    (accepted : ∀ s, .configure s ∈ events → s.check = .ok s) :
    (o.setups events).map (·.settings) = events.filterMap Event.settings? ∧
      (∀ c ∈ o.setups events, c.Renewed ∧ Apart c.before c.after ∧ Apart o c.after) ∧
      (o.setups events).Pairwise fun c c' => Apart c.after c'.after := by
  refine ⟨settings_setups o events, fun c member => ?_, pairwise_apart accepted⟩
  have renewed := renewed_of_mem accepted member
  exact ⟨renewed, renewed.apart (Nat.le_refl _), renewed.apart (made_le_before member)⟩

/-- Outlets with a directory among the files, and with handlers of someone else around one that writes errors. -/
def crowded : Outlets where
  handlers := [⟨0, none⟩, ⟨3, some (.console 40)⟩, ⟨1, none⟩]
  made := 4
  files := ⟨[(Files.Place.here.child "dir", .folder)]⟩
  directory := "/work"
  number_lt := by decide

/-- Logging is set up three times; at first the log file is a directory, and later there is none. -/
def threefold : List Event :=
  [.configure { logFile := .text "dir" }, .attach none,
    .configure { logLevel := .text "DEBUG", logFile := .text "logs/mint.log" }, .change fun _ => .empty,
    .configure { logLevel := .text "ERROR" }]

/-- The numbers of what is attached, the level, and whether the system refused the log file. -/
def gist (c : Setup) : List Nat × Int × Bool :=
  (c.after.handlers.map (·.number), c.after.level, match c.answer with
    | .error f => f.kind.isSystem
    | .ok () => false)

theorem renewed_of_events_threefold :
    (∀ s, .configure s ∈ threefold → s.check = .ok s) ∧
      (crowded.setups threefold).map gist = [([4], 20, true), ([6, 7], 10, false), ([8], 40, false)] ∧
      ∀ c ∈ crowded.setups threefold, c.Renewed := by
  have accepted : ∀ s, .configure s ∈ threefold → s.check = .ok s := by
    intro s member
    simp only [threefold, List.mem_cons, Event.configure.injEq, reduceCtorEq, List.not_mem_nil, or_false,
      false_or] at member
    rcases member with rfl | rfl | rfl <;> rfl
  obtain ⟨-, renewed, -⟩ := renewed_of_events crowded accepted
  exact ⟨accepted, by decide +kernel, fun c member => (renewed c member).1⟩

end Outlets

end CertMint.Log
