import CertMint.Mint.Chain
import CertMint.Proofs.Work

/-! # Work that pays no heed to what is written down

Steady work takes what it needs from the supplies, the clock and the engine only. Another stopwatch, other
metrics and other notes before it change neither its result nor what it uses up, and it adds the same notes
to whichever are there. Steadiness composes; the making of key pairs and the issuing of certificates have
it.
-/

namespace CertMint

variable {α β : Type}

/-- The workshop with another stopwatch, other metrics and other notes. -/
def Workshop.refit (w : Workshop) (seconds : List Binary64) (metrics : List Metric)
    (notes : List Log.Note) : Workshop :=
  { w with seconds, metrics, notes }

@[simp] theorem Workshop.refit_self (w : Workshop) : w.refit w.seconds w.metrics w.notes = w := rfl

/-- Work that goes the same way from every refitted workshop, and adds the same notes. -/
def Steady (work : Work α) : Prop :=
  ∀ w, ∃ added, ∀ seconds metrics notes,
    work.perform (w.refit seconds metrics notes) =
      ((work.perform w).1, (work.perform w).2.refit seconds metrics (notes ++ added))

namespace Steady

theorem pure (a : α) : Steady (Pure.pure a) := by
  intro w
  exact ⟨[], fun _ _ _ => by simp [Workshop.refit]⟩

theorem fail (f : Fault) : Steady (Work.fail f : Work α) := by
  intro w
  refine ⟨[], fun _ _ _ => ?_⟩
  rw [List.append_nil]
  rfl

theorem ofExcept (r : Except Fault α) : Steady (Work.ofExcept r) := by
  intro w
  exact ⟨[], fun _ _ _ => by simp [Workshop.refit]⟩

theorem note (n : Log.Note) : Steady (Work.note n) := by
  intro w
  exact ⟨[n], fun _ _ _ => by simp [Workshop.refit]⟩

theorem maker : Steady Work.maker := by
  intro w
  exact ⟨[], fun _ _ _ => by simp [Workshop.refit]⟩

theorem drawKey : Steady Work.drawKey := by
  intro w
  refine ⟨[], fun _ _ _ => ?_⟩
  cases keys : w.keys <;> simp [Work.perform_drawKey, Workshop.refit, keys]

theorem drawSerial : Steady Work.drawSerial := by
  intro w
  refine ⟨[], fun _ _ _ => ?_⟩
  cases serials : w.serials <;> simp [Work.perform_drawSerial, Workshop.refit, serials]

theorem readClock : Steady Work.readClock := by
  intro w
  exact ⟨[], fun _ _ _ => by simp [Work.perform_readClock, Workshop.refit]⟩

theorem bind {x : Work α} {f : α → Work β} (first : Steady x) (second : ∀ a, Steady (f a)) :
    Steady (x >>= f) := by
  intro w
  obtain ⟨added, run⟩ := first w
  rcases ended : x.perform w with ⟨e | a, w₁⟩
  · refine ⟨added, fun seconds metrics notes => ?_⟩
    simp only [Work.perform_bind, run, ended]
  · obtain ⟨more, rest⟩ := second a w₁
    refine ⟨added ++ more, fun seconds metrics notes => ?_⟩
    simp only [Work.perform_bind, run, ended, rest, List.append_assoc]

theorem wrapping {x : Work α} (h : Steady x) (kinds : Fault.Kind → Bool) (f : Fault → Fault) :
    Steady (Work.wrapping kinds f x) := by
  intro w
  obtain ⟨added, run⟩ := h w
  refine ⟨added, fun seconds metrics notes => ?_⟩
  simp only [Work.perform_wrapping, run]
  rcases x.perform w with ⟨e | a, w₁⟩ <;> rfl

theorem result_refit {x : Work α} (h : Steady x) (w : Workshop) (seconds : List Binary64)
    (metrics : List Metric) (notes : List Log.Note) :
    (x.perform (w.refit seconds metrics notes)).1 = (x.perform w).1 := by
  obtain ⟨added, run⟩ := h w
  rw [run]

/-- Steady work leaves stopwatch and metrics as they are. -/
theorem exists_perform_eq {x : Work α} (h : Steady x) (w : Workshop) :
    ∃ added, (x.perform w).2 = (x.perform w).2.refit w.seconds w.metrics (w.notes ++ added) := by
  obtain ⟨added, run⟩ := h w
  exact ⟨added, congrArg Prod.snd (run w.seconds w.metrics w.notes)⟩

theorem metrics_eq {x : Work α} (h : Steady x) (w : Workshop) : (x.perform w).2.metrics = w.metrics := by
  obtain ⟨added, eq⟩ := h.exists_perform_eq w
  rw [eq]
  rfl

end Steady

namespace Mint

theorem steady_request (size exponent : Datum) : Steady (request size exponent) := by
  have asked :
      Steady (Work.change fun w => { w with requests := w.requests ++ [(size, exponent)] }) := by
    intro w
    exact ⟨[], fun _ _ _ => by simp [Workshop.refit]⟩
  exact asked.bind fun _ => .bind .maker fun _ => .bind (.ofExcept _) fun _ => .drawKey

theorem steady_generate (s : Settings) : Steady (generate s) := by
  apply Steady.bind
  · exact (steady_request _ _).wrapping _ _
  · intro pair
    exact .bind (.ofExcept _) fun _ => .bind (.note _) fun _ => .pure pair

theorem steady_describe (f : Forge) (issuer subject : Option Rsa.KeyPair) (valid distance : Datum) :
    Steady (f.describe issuer subject valid distance) := by
  cases issuer with
  | none => exact .fail _
  | some issuer =>
      cases subject with
      | none => exact .fail _
      | some subject =>
          have drawn : Steady (do
              let serial ← Work.drawSerial
              let now ← Work.readClock
              let validity ← Work.ofExcept (Window.ofSettings f.settings valid.truthy now)
              let pathLength ← Work.ofExcept (Forge.pathLengthAt distance)
              return (⟨keyName issuer.publicKey, keyName subject.publicKey, serial, validity,
                pathLength⟩ : Spec)) :=
            .bind .drawSerial fun _ => .bind .readClock fun _ => .bind (.ofExcept _) fun _ =>
              .bind (.ofExcept _) fun _ => .pure _
          apply Steady.bind (.ofExcept _)
          intro o
          split
          · exact .bind (.fail _) fun _ => drawn
          · exact drawn

theorem steady_issue (f : Forge) (issuer subject : Option Rsa.KeyPair) (valid distance : Datum) :
    Steady (f.issue issuer subject valid distance) := by
  apply (steady_describe f issuer subject valid distance).bind
  intro spec
  exact .bind (.ofExcept _) fun c => .bind (.ofExcept _) fun _ => .bind (.ofExcept _) fun _ =>
    .bind (.ofExcept _) fun _ => .bind (.note _) fun _ => .pure c

theorem steady_certificatesFrom (b : Builder) (invalid : Datum) (issuer subject : Rsa.KeyPair)
    (position : Nat) : Steady (b.certificatesFrom invalid issuer subject position) := by
  induction position generalizing issuer subject with
  | zero => exact .bind (steady_issue _ _ _ _ _) fun _ => .pure _
  | succ position ih =>
      exact .bind (steady_issue _ _ _ _ _) fun _ => .bind (steady_generate _) fun next =>
        .bind (ih subject next) fun _ => .pure _

/-- Certificates hang on what key pairs are made by and what certificates are issued by, and on nothing else
    of a builder. -/
theorem Builder.certificatesFrom_congr {b b' : Builder} (generates : generate b'.settings = generate b.settings)
    (issues : b'.forge.issue = b.forge.issue) (invalid : Datum) (issuer subject : Rsa.KeyPair)
    (position : Nat) :
    b'.certificatesFrom invalid issuer subject position = b.certificatesFrom invalid issuer subject position := by
  induction position generalizing issuer subject with
  | zero => simp only [certificatesFrom, issues]
  | succ position ih => simp only [certificatesFrom, issues, generates, ih]

end Mint

end CertMint
