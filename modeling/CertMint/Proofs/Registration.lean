import CertMint.Mint.Fixtures
import CertMint.Proofs.Provision

/-! # Registration of the engine

The engine is registered by whichever component is made first, and may be forgotten again. What one attempt
at registration does is said once, whoever makes it. A sequence of attempts and resets, each with an engine
of its own or without one, follows from that: whether the engine is registered at the end can be told from
what was noted since the last reset.
-/

namespace CertMint.Mint

/-! ## An attempt -/

def registrationNote (e : Engine) : Log.Note :=
  .of .debug engineLogger ("Registered cryptographic engine: " ++ e.version)

/-- The fault of an attempt to register an engine that is not there. -/
def registrationFault (f : Fault) : Fault :=
  if isMissingEngine f.kind then f.asFailure "engine registration" else f

def enrolled (w : Workshop) (e : Engine) : Workshop :=
  { w with registered := true, notes := w.notes ++ [registrationNote e] }

/-- What comes of work that begins with a registration, unless there is one already, and goes on with the
    engine that it finds then. -/
def afterRegistration {α : Type} (w : Workshop) (next : Except Fault Engine → Except Fault α) :
    Except Fault α × Workshop :=
  match w.registered, w.engine with
  | true, engine => (next engine, w)
  | false, .error f => (.error (registrationFault f), w)
  | false, .ok e => (next (.ok e), enrolled w e)

theorem perform_register (w : Workshop) : register.perform w = afterRegistration w fun _ => .ok () := by
  rw [register, Work.perform_bind, Work.perform_get, afterRegistration]
  dsimp only
  cases registered : w.registered with
  | true => rfl
  | false =>
      cases engine : w.engine with
      | error f => simp [Work.perform_bind, Work.perform_wrapping, engine, registrationFault]
      | ok e =>
          simp [Work.perform_bind, Work.perform_wrapping, engine, enrolled, registrationNote]

section

variable {α β : Type} {w : Workshop}

theorem afterRegistration_of_registered (registered : w.registered = true)
    (next : Except Fault Engine → Except Fault α) : afterRegistration w next = (next w.engine, w) := by
  rw [afterRegistration, registered]

/-- Once there is a registration, work that reads no more than the engine goes on with it. -/
theorem perform_bind_afterRegistration {x : Work α} {f : α → Work β}
    {next : Except Fault Engine → Except Fault α} {g : α → Except Fault Engine → Except Fault β}
    (first : x.perform w = afterRegistration w next)
    (second : ∀ a (v : Workshop), v.registered = true → (f a).perform v = (g a v.engine, v)) :
    (x >>= f).perform w = afterRegistration w fun engine => (next engine).bind (g · engine) := by
  rw [Work.perform_bind, first, afterRegistration, afterRegistration]
  cases registered : w.registered with
  | true =>
      dsimp only
      cases next w.engine with
      | error f => rfl
      | ok a => exact second a w registered
  | false =>
      cases there : w.engine with
      | error f => rfl
      | ok e =>
          dsimp only
          cases next (.ok e) with
          | error f => rfl
          | ok a =>
              have went := second a (enrolled w e) rfl
              rwa [show (enrolled w e).engine = .ok e from there] at went

end

def digestOf (engine : Except Fault Engine) (name : Datum) : Except Fault Digest.Algorithm := do
  let text ← algorithmName name
  let algorithm ← algorithmOf text
  let e ← engine
  if e.supports algorithm then return algorithm
  else throw (Fault.operationFailed "hash resolution"
    ("hash algorithm " ++ Text.quoted text ++ " is not supported"))

theorem perform_resolve (name : Datum) (w : Workshop) :
    (resolve name).perform w = (digestOf w.engine name, w) := by
  simp only [resolve, digestOf, Work.perform_bind, Work.perform_ofExcept, Work.perform_get]
  cases named : algorithmName name with
  | error f => rfl
  | ok text =>
      cases known : algorithmOf text with
      | error f => simp only [known, ok_bind]; rfl
      | ok algorithm =>
          cases there : w.engine with
          | error f => simp only [known, there, ok_bind]; rfl
          | ok e =>
              simp only [known, there, ok_bind]
              split <;> rfl

theorem perform_makeForge (s : Settings) (w : Workshop) : (Forge.make s).perform w =
    afterRegistration w fun engine => (digestOf engine s.signatureHash).map fun digest => ⟨s, digest⟩ := by
  rw [Forge.make]
  refine (perform_bind_afterRegistration (g := fun _ engine => (digestOf engine s.signatureHash).map
    fun digest => Forge.mk s digest) (perform_register w) fun _ v _ => ?_).trans rfl
  rw [Work.perform_bind, perform_resolve]
  cases digestOf v.engine s.signatureHash <;> rfl

theorem perform_makeBuilder (s : Settings) (measures : Bool) (w : Workshop) :
    (Builder.make s measures).perform w = afterRegistration w fun engine =>
      (digestOf engine s.signatureHash).map fun digest => ⟨s, ⟨s, digest⟩, measures⟩ := by
  rw [Builder.make]
  refine (perform_bind_afterRegistration (g := fun _ engine => (digestOf engine s.signatureHash).map
    fun digest => Builder.mk s ⟨s, digest⟩ measures) (perform_register w) fun _ v registered => ?_).trans rfl
  -- the forge registers once more, and finds a registration
  rw [Work.perform_bind, perform_makeForge, afterRegistration_of_registered registered]
  cases digestOf v.engine s.signatureHash <;> rfl

theorem perform_wire (s : Settings) (measures : Bool) (w : Workshop) :
    (Facade.wire s measures).perform w = afterRegistration w fun engine =>
      (digestOf engine s.signatureHash).map fun digest => ⟨s, digest, measures⟩ := by
  rw [Facade.wire]
  refine (perform_bind_afterRegistration (g := fun b _ => .ok (Facade.mk s b.forge.digest measures))
    (perform_makeBuilder s measures w) fun _ _ _ => rfl).trans ?_
  refine congrArg (afterRegistration w) (funext fun engine => ?_)
  cases digestOf engine s.signatureHash <;> rfl

/-- A component that needs the engine. -/
inductive Component where
  /-- What makes key pairs. It looks at settings only when it makes one. -/
  | keySource
  | forge (s : Settings)
  | facade (s : Settings) (measures : Bool)

namespace Component

def make : Component → Work Unit
  | .keySource => register
  | .forge s => do
      let _ ← Forge.make s
  | .facade s measures => do
      let _ ← Facade.wire s measures

/-- The name of the digest that is looked for once the engine is registered. -/
def digestName? : Component → Option Datum
  | .keySource => none
  | .forge s | .facade s _ => some s.signatureHash

end Component

inductive Action where
  | reset
  | register
  | construct (c : Component)

namespace Action

def work : Action → Work Unit
  | .reset => Work.change fun w => { w with registered := false }
  | .register => Mint.register
  | .construct c => c.make

def digestName? : Action → Option Datum
  | .construct c => c.digestName?
  | .reset | .register => none

/-- What comes after the registration: the digest is looked for, if there is a name for it. -/
def search (a : Action) (engine : Except Fault Engine) : Except Fault Unit :=
  match a.digestName? with
  | none => .ok ()
  | some name => (digestOf engine name).map fun _ => ()

/-- All that an attempt can do. It is the same whoever makes it: a registration, unless there is one already,
    and then the search for a digest. -/
theorem perform_work {a : Action} (attempt : a ≠ .reset) (w : Workshop) :
    a.work.perform w = afterRegistration w a.search := by
  -- what was made is thrown away
  have discarded {α : Type} {x : Work α} {name : Datum} {made : Digest.Algorithm → α}
      (run : x.perform w = afterRegistration w fun engine => (digestOf engine name).map made) :
      (do let _ ← x : Work Unit).perform w =
        afterRegistration w fun engine => (digestOf engine name).map fun _ => () := by
    refine (perform_bind_afterRegistration (g := fun _ _ => .ok ()) run fun _ _ _ => rfl).trans ?_
    refine congrArg (afterRegistration w) (funext fun engine => ?_)
    cases digestOf engine name <;> rfl
  cases a with
  | reset => exact absurd rfl attempt
  | register => exact perform_register w
  | construct c =>
      cases c with
      | keySource => exact perform_register w
      | forge s => exact discarded (perform_makeForge s w)
      | facade s measures => exact discarded (perform_wire s measures w)

end Action

/-! ## Sequences of attempts -/

/-- An action, and the engine that is there for it. -/
structure Step where
  engine : Except Fault Engine
  action : Action

structure Taken where
  action : Action
  before : Workshop
  result : Except Fault Unit
  after : Workshop

def Step.take (s : Step) (w : Workshop) : Taken :=
  let before := { w with engine := s.engine }
  let ended := s.action.work.perform before
  ⟨s.action, before, ended.1, ended.2⟩

/-- Steps one after the other, whether or not they fault, and the workshop in the end. -/
def takeAll : List Step → Workshop → List Taken × Workshop
  | [], w => ([], w)
  | s :: rest, w =>
    let taken := s.take w
    let (others, w') := takeAll rest taken.after
    (taken :: others, w')

namespace Taken

/-- The step was an attempt that found an engine, and noted it. -/
def Resolved (t : Taken) : Prop :=
  ∃ engine, t.before.engine = .ok engine ∧ t.after.notes = t.before.notes ++ [registrationNote engine]

/-- What an attempt does in each of the three cases: there is a registration already; the engine is not
    there; the engine is there. -/
structure Lawful (t : Taken) : Prop where
  /-- Nothing is noted, and it does not matter which engine there is for the registration. -/
  idle : t.before.registered = true → t.after = t.before ∧ t.result = t.action.search t.before.engine ∧
    ∀ engine, register.perform { t.before with engine } = (.ok (), { t.before with engine })
  /-- The workshop is as before, and so there is still no registration. -/
  failed : t.before.registered = false → ∀ f, t.before.engine = .error f →
    t.after = t.before ∧ ∃ g, t.result = .error g ∧
      (g.kind = .operationFailed (.text "engine registration") ∧ g.cause? = some f ↔
        isMissingEngine f.kind = true) ∧
      (isMissingEngine f.kind = true → g.message = "engine registration failed: " ++ f.message) ∧
      (isMissingEngine f.kind = false → g = f)
  found : t.before.registered = false → ∀ engine, t.before.engine = .ok engine →
    t.after = enrolled t.before engine ∧ t.result = t.action.search (.ok engine)
  made : t.result = .ok () → t.after.registered = true

end Taken

theorem cause?_ne_self (f : Fault) : f.cause? ≠ some f := by
  intro own
  cases f with
  | because kind details cause thrown =>
      have size := congrArg sizeOf (Option.some.inj own)
      simp at size
      omega
  | _ => cases own

theorem registrationFault_of_other {f : Fault} (other : isMissingEngine f.kind = false) :
    registrationFault f = f := by
  rw [registrationFault, other, if_neg Bool.false_ne_true]

theorem registrationFault_of_missing {f : Fault} (missing : isMissingEngine f.kind = true) :
    registrationFault f = (Fault.operationFailed "engine registration" f.message).causedBy f := by
  rw [registrationFault, missing, if_pos rfl, Fault.asFailure]

/-- The fault of an attempt is the failure to register, with the engine's fault for its cause, when the
    engine is missing. -/
theorem registrationFault_wraps_iff (f : Fault) :
    ((registrationFault f).kind = .operationFailed (.text "engine registration") ∧
        (registrationFault f).cause? = some f) ↔ isMissingEngine f.kind = true := by
  cases missing : isMissingEngine f.kind with
  | false =>
      rw [registrationFault_of_other missing]
      exact iff_of_false (fun wraps => cause?_ne_self f wraps.2) Bool.false_ne_true
  | true =>
      rw [registrationFault_of_missing missing]
      exact iff_of_true ⟨rfl, rfl⟩ rfl

theorem Step.lawful_take {s : Step} (attempt : s.action ≠ .reset) (w : Workshop) :
    (s.take w).Lawful := by
  let before : Workshop := { w with engine := s.engine }
  have taken : s.take w = ⟨s.action, before, (s.action.work.perform before).1,
    (s.action.work.perform before).2⟩ := rfl
  rw [taken, Action.perform_work attempt before, afterRegistration]
  cases registered : before.registered with
  | true =>
      refine { idle := fun _ => ⟨rfl, rfl, fun engine => ?_⟩, failed := fun no => ?_, found := fun no => ?_,
               made := fun _ => registered }
      · rw [perform_register, afterRegistration_of_registered]
        exact registered
      · cases registered.symm.trans no
      · cases registered.symm.trans no
  | false =>
      cases engine : before.engine with
      | error f =>
          refine { idle := fun no => ?_, failed := fun _ f' missing => ?_, found := fun _ e found => ?_,
                   made := fun no => ?_ }
          · cases registered.symm.trans no
          · obtain rfl : f = f' := Except.error.inj (engine.symm.trans missing)
            refine ⟨rfl, _, rfl, registrationFault_wraps_iff f, fun missing => ?_,
              registrationFault_of_other⟩
            rw [registrationFault_of_missing missing]
            rfl
          · cases engine.symm.trans found
          · cases no
      | ok e =>
          refine { idle := fun no => ?_, failed := fun _ f missing => ?_, found := fun _ e' found => ?_,
                   made := fun _ => rfl }
          · cases registered.symm.trans no
          · cases engine.symm.trans missing
          · obtain rfl : e = e' := Except.ok.inj (engine.symm.trans found)
            exact ⟨rfl, rfl⟩

theorem Step.take_reset {s : Step} (reset : s.action = .reset) (w : Workshop) :
    (s.take w).after = { w with engine := s.engine, registered := false } ∧ ¬ (s.take w).Resolved := by
  have after : (s.take w).after = { w with engine := s.engine, registered := false } := by
    rw [Step.take, reset]
    rfl
  refine ⟨after, fun ⟨e, _, noted⟩ => ?_⟩
  rw [after] at noted
  exact List.cons_ne_nil _ _ (List.self_eq_append_right.mp noted)

/-- After a step that is not a reset there is a registration if there was one before, or if the step
    found an engine. -/
theorem Step.registered_take_iff {s : Step} (attempt : s.action ≠ .reset) (w : Workshop) :
    (s.take w).after.registered = true ↔ (s.take w).Resolved ∨ w.registered = true := by
  have lawful := lawful_take attempt w
  have before : (s.take w).before = { w with engine := s.engine } := rfl
  cases registered : w.registered with
  | true =>
      rw [(lawful.idle registered).1]
      exact iff_of_true registered (.inr rfl)
  | false =>
      cases engine : s.engine with
      | error f =>
          have missing : (s.take w).before.engine = .error f := engine
          rw [(lawful.failed registered f missing).1]
          refine iff_of_false (fun no => ?_) ?_
          · cases registered.symm.trans no
          · rintro (⟨e, found, -⟩ | no)
            · cases missing.symm.trans found
            · cases no
      | ok e =>
          have found : (s.take w).before.engine = .ok e := engine
          have after := (lawful.found registered e found).1
          exact iff_of_true (congrArg Workshop.registered after)
            (.inl ⟨e, found, congrArg Workshop.notes after⟩)

def Unbroken (taken : List Taken) : Prop := ∀ t ∈ taken, t.action ≠ .reset

/-- An attempt since the last reset found an engine. -/
def ResolvedSince (taken : List Taken) : Prop :=
  ∃ earlier t later, taken = earlier ++ t :: later ∧ t.Resolved ∧ Unbroken later

theorem unbroken_cons {t : Taken} {taken : List Taken} :
    Unbroken (t :: taken) ↔ t.action ≠ .reset ∧ Unbroken taken := List.forall_mem_cons

theorem resolvedSince_cons {t : Taken} {taken : List Taken} :
    ResolvedSince (t :: taken) ↔ ResolvedSince taken ∨ t.Resolved ∧ Unbroken taken := by
  constructor
  · rintro ⟨earlier, u, later, eq, resolved, unbroken⟩
    cases earlier with
    | nil =>
        obtain ⟨rfl, rfl⟩ := List.cons.inj eq
        exact .inr ⟨resolved, unbroken⟩
    | cons _ earlier => exact .inl ⟨earlier, u, later, (List.cons.inj eq).2, resolved, unbroken⟩
  · rintro (⟨earlier, u, later, rfl, resolved, unbroken⟩ | ⟨resolved, unbroken⟩)
    · exact ⟨t :: earlier, u, later, rfl, resolved, unbroken⟩
    · exact ⟨[], t, taken, rfl, resolved, unbroken⟩

theorem registered_takeAll_iff (steps : List Step) (w : Workshop) :
    (takeAll steps w).2.registered = true ↔
      ResolvedSince (takeAll steps w).1 ∨ w.registered = true ∧ Unbroken (takeAll steps w).1 := by
  induction steps generalizing w with
  | nil =>
      refine ⟨fun registered => .inr ⟨registered, fun _ no => nomatch no⟩, ?_⟩
      rintro (⟨earlier, _, _, eq, -⟩ | ⟨registered, -⟩)
      · exact absurd eq.symm (List.append_ne_nil_of_right_ne_nil earlier (List.cons_ne_nil _ _))
      · exact registered
  | cons s rest ih =>
      have action : (s.take w).action = s.action := rfl
      rw [takeAll, ih, resolvedSince_cons, unbroken_cons, action]
      -- a reset forgets what came before it; any other step can only add a registration
      by_cases reset : s.action = .reset
      · obtain ⟨after, unresolved⟩ := Step.take_reset reset w
        rw [after]
        simp only [Bool.false_eq_true, false_and, or_false, unresolved, reset, ne_eq, not_true, and_false]
      · have registered := Step.registered_take_iff reset w
        tauto

theorem lawful_takeAll (steps : List Step) (w : Workshop) :
    ∀ t ∈ (takeAll steps w).1, t.action ≠ .reset → t.Lawful := by
  induction steps generalizing w with
  | nil => exact fun _ no => nomatch no
  | cons s rest ih =>
      rw [takeAll]
      exact List.forall_mem_cons.mpr ⟨fun attempt => Step.lawful_take attempt w, ih _⟩

/-- After any sequence of resets and attempts, each with an engine of its own or without one, there is a
    registration if an attempt since the last reset found an engine, or if there was one to begin with and
    no reset; and every attempt on the way did what an attempt may do. -/
theorem registered_iff_resolvedSince (steps : List Step) (w : Workshop) :
    ((takeAll steps w).2.registered = true ↔
        ResolvedSince (takeAll steps w).1 ∨ w.registered = true ∧ Unbroken (takeAll steps w).1) ∧
      ∀ t ∈ (takeAll steps w).1, t.action ≠ .reset → t.Lawful :=
  ⟨registered_takeAll_iff steps w, lawful_takeAll steps w⟩

/-- The engine cannot be loaded. -/
def unloaded : Fault := .of .importing "no engine"

/-- There is no engine at first, then there is one when a forge is made, and then there is none again. -/
def retries : List Step :=
  [⟨.error unloaded, .register⟩, ⟨stockedWorkshop.engine, .construct (.forge {})⟩,
    ⟨.error unloaded, .construct .keySource⟩]

/-- The first attempt fails and the second registers the engine; the third finds it registered. -/
theorem registered_iff_resolvedSince_retries :
    (takeAll retries { stockedWorkshop with registered := false }).2.registered = true ∧
    ∃ first second third, (takeAll retries { stockedWorkshop with registered := false }).1 =
        [first, second, third] ∧
      (∃ g, first.result = .error g ∧ g.kind = .operationFailed (.text "engine registration") ∧
        g.cause? = some unloaded) ∧
      first.after.registered = false ∧ second.result = .ok () ∧ third.after = third.before := by
  obtain ⟨registered, lawful⟩ :=
    registered_iff_resolvedSince retries { stockedWorkshop with registered := false }
  let first : Taken := Step.take ⟨.error unloaded, .register⟩ { stockedWorkshop with registered := false }
  let second : Taken := Step.take ⟨stockedWorkshop.engine, .construct (.forge {})⟩ first.after
  let third : Taken := Step.take ⟨.error unloaded, .construct .keySource⟩ second.after
  have all : (takeAll retries { stockedWorkshop with registered := false }).1 = [first, second, third] := rfl
  rw [all] at registered lawful
  obtain ⟨unchanged, g, failed, wraps, -⟩ :=
    (lawful first (by simp) (by intro no; cases no)).failed rfl unloaded rfl
  have unregistered : first.after.registered = false := congrArg Workshop.registered unchanged
  obtain ⟨found, sought⟩ :=
    (lawful second (by simp) (by intro no; cases no)).found unregistered ⟨"", fun _ => true⟩ rfl
  have there : second.after.registered = true := congrArg Workshop.registered found
  obtain ⟨idle, -⟩ := (lawful third (by simp) (by intro no; cases no)).idle there
  refine ⟨registered.mpr (.inl ⟨[first], second, [third], rfl, ?_, ?_⟩), first, second, third, all,
    ⟨g, failed, wraps.mpr rfl⟩, unregistered, sought, idle⟩
  · exact ⟨_, rfl, congrArg Workshop.notes found⟩
  · intro t member
    rw [List.mem_singleton.mp member]
    intro no
    cases no

end CertMint.Mint
