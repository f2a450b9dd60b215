import CertMint.Mint.Workshop

/-! # Work, step by step

What performing a piece of work amounts to: each step by itself, and two pieces one after the other.
`Spends` records what work between two states of a workshop has used up, on success and on failure
alike; it composes.
-/

namespace CertMint

variable {ε α β : Type}

/-! ## Results -/

theorem bind_eq_ok {x : Except ε α} {f : α → Except ε β} {b : β} :
    (x >>= f) = .ok b ↔ ∃ a, x = .ok a ∧ f a = .ok b := by
  cases x with
  | ok a => exact ⟨fun h => ⟨a, rfl, h⟩, fun ⟨_, rfl, h⟩ => h⟩
  | error e => exact ⟨fun h => (by cases h), fun ⟨_, h, _⟩ => (by cases h)⟩

theorem bind_eq_error {x : Except Fault α} {f : α → Except Fault β} {e : Fault} :
    (x >>= f) = .error e ↔ x = .error e ∨ ∃ a, x = .ok a ∧ f a = .error e := by
  cases x with
  | ok a =>
      refine ⟨fun h => .inr ⟨a, rfl, h⟩, ?_⟩
      rintro (h | ⟨_, same, h⟩)
      · cases h
      · rwa [← Except.ok.inj same] at h
  | error e' =>
      refine ⟨fun h => .inl (congrArg Except.error (Except.error.inj h)), ?_⟩
      rintro (h | ⟨_, h, _⟩)
      · exact congrArg Except.error (Except.error.inj h)
      · cases h

@[simp] theorem ok_bind (a : α) (f : α → Except ε β) : (Except.ok a >>= f) = f a := rfl

theorem toOption_eq_some_iff {x : Except ε α} {a : α} : x.toOption = some a ↔ x = .ok a := by
  cases x <;> simp [Except.toOption]

/-! ## Runs -/

section Runs

variable {σ : Type}

theorem run_bind (x : ExceptT Fault (StateM σ) α) (f : α → ExceptT Fault (StateM σ) β) (s : σ) :
    (x >>= f).run s = match x.run s with
      | (.ok a, s') => (f a).run s'
      | (.error e, s') => (.error e, s') := by
  simp only [ExceptT.run, bind, ExceptT.bind, ExceptT.mk, StateT.bind]
  rcases x s with ⟨_ | _, _⟩ <;> rfl

theorem run_tryCatch (x : ExceptT Fault (StateM σ) α) (handler : Fault → ExceptT Fault (StateM σ) α) (s : σ) :
    (tryCatch x handler).run s = match x.run s with
      | (.ok a, s') => (.ok a, s')
      | (.error e, s') => (handler e).run s' := by
  simp only [ExceptT.run, tryCatch, tryCatchThe, MonadExceptOf.tryCatch, ExceptT.tryCatch, ExceptT.mk, bind,
    StateT.bind]
  rcases x s with ⟨_ | _, _⟩ <;> rfl

end Runs

/-! ## Steps -/

namespace Work

variable (w : Workshop)

@[simp] theorem perform_pure (a : α) : (pure a : Work α).perform w = (.ok a, w) := rfl

@[simp] theorem perform_maker : maker.perform w = (.ok w.maker, w) := rfl

@[simp] theorem perform_get : (get : Work Workshop).perform w = (.ok w, w) := rfl

@[simp] theorem perform_change (f : Workshop → Workshop) : (change f).perform w = (.ok (), f w) := rfl

@[simp] theorem perform_note (n : Log.Note) :
    (note n).perform w = (.ok (), { w with notes := w.notes ++ [n] }) := rfl

@[simp] theorem perform_ofExcept (r : Except Fault α) : (ofExcept r).perform w = (r, w) := by
  cases r <;> rfl

/-- Work after work: the second begins where the first ended, unless that was with a fault. -/
theorem perform_bind (x : Work α) (f : α → Work β) :
    (x >>= f).perform w = match x.perform w with
      | (.ok a, w') => (f a).perform w'
      | (.error e, w') => (.error e, w') := by
  simp only [perform, run_bind]
  rcases x.run w with ⟨_ | _, _⟩ <;> rfl

theorem perform_tryCatch (x : Work α) (handler : Fault → Work α) :
    (tryCatch x handler).perform w = match x.perform w with
      | (.ok a, w') => (.ok a, w')
      | (.error e, w') => (handler e).perform w' := by
  simp only [perform, run_tryCatch]
  rcases x.run w with ⟨_ | _, _⟩ <;> rfl

theorem perform_wrapping (kinds : Fault.Kind → Bool) (f : Fault → Fault) (x : Work α) :
    (wrapping kinds f x).perform w = match x.perform w with
      | (.ok a, w') => (.ok a, w')
      | (.error e, w') => (.error (if kinds e.kind then f e else e), w') := by
  rw [wrapping, perform_tryCatch]
  rcases x.perform w with ⟨e | _, _⟩
  · dsimp only
    split <;> rfl
  · rfl

theorem perform_readClock :
    readClock.perform w = (match w.clock w.readings with
      | some m => .ok m
      | none => .error outOfYears, { w with readings := w.readings + 1 }) := by
  simp only [readClock, perform_bind, perform_get, perform_change]
  cases w.clock w.readings <;> rfl

theorem perform_drawSerial :
    drawSerial.perform w = match w.serials with
      | [] => (.error (.of .runtime "out of serials"), w)
      | next :: rest => (next, { w with serials := rest }) := by
  simp only [drawSerial, perform_bind, perform_get]
  cases w.serials with
  | nil => rfl
  | cons next rest => simp only [perform_bind, perform_change, perform_ofExcept]

theorem perform_drawKey :
    drawKey.perform w = match w.keys with
      | [] => (.error (.of .value "out of keys"), w)
      | next :: rest => (next, { w with keys := rest }) := by
  simp only [drawKey, perform_bind, perform_get]
  cases w.keys with
  | nil => rfl
  | cons next rest => simp only [perform_bind, perform_change, perform_ofExcept]

variable {w} {w' : Workshop}

theorem perform_bind_eq_ok {x : Work α} {f : α → Work β} {b : β} :
    (x >>= f).perform w = (.ok b, w') ↔
      ∃ a w₁, x.perform w = (.ok a, w₁) ∧ (f a).perform w₁ = (.ok b, w') := by
  rw [perform_bind]
  rcases x.perform w with ⟨e | a, w₁⟩
  · exact ⟨fun h => (by cases h), fun ⟨_, _, h, _⟩ => (by cases h)⟩
  · exact ⟨fun h => ⟨a, w₁, rfl, h⟩, fun ⟨_, _, rfl, h⟩ => h⟩

/-- Work after work ends with what the second ends with, or with the fault of the first. -/
theorem perform_bind_cases {x : Work α} {f : α → Work β} {r : Except Fault β}
    (h : (x >>= f).perform w = (r, w')) :
    (∃ a w₁, x.perform w = (.ok a, w₁) ∧ (f a).perform w₁ = (r, w')) ∨
      ∃ e, x.perform w = (.error e, w') ∧ r = .error e := by
  rw [perform_bind] at h
  rcases eq : x.perform w with ⟨e | a, w₁⟩
  · rw [eq] at h
    obtain ⟨rfl, rfl⟩ := Prod.mk.inj h
    exact .inr ⟨e, rfl, rfl⟩
  · rw [eq] at h
    exact .inl ⟨a, w₁, rfl, h⟩

end Work

/-! ## What work uses up -/

/-- Between two states of a workshop, these keys and serials were taken from its supplies, in order,
    and its clock was read so often. -/
structure Spends (w w' : Workshop) (keys : List (Except Fault Rsa.KeyPair))
    (serials : List (Except Fault Datum)) (readings : Nat) : Prop where
  keys_eq : w.keys = keys ++ w'.keys
  serials_eq : w.serials = serials ++ w'.serials
  readings_eq : w'.readings = w.readings + readings
  clock_eq : w'.clock = w.clock
  maker_eq : w'.maker = w.maker

namespace Spends

variable {w w₁ w' : Workshop} {keys keys' : List (Except Fault Rsa.KeyPair)}
  {serials serials' : List (Except Fault Datum)} {readings readings' : Nat}

theorem nothing (w : Workshop) : Spends w w [] [] 0 := ⟨rfl, rfl, rfl, rfl, rfl⟩

theorem trans (h : Spends w w₁ keys serials readings) (h' : Spends w₁ w' keys' serials' readings') :
    Spends w w' (keys ++ keys') (serials ++ serials') (readings + readings') where
  keys_eq := by rw [h.keys_eq, h'.keys_eq, List.append_assoc]
  serials_eq := by rw [h.serials_eq, h'.serials_eq, List.append_assoc]
  readings_eq := by rw [h'.readings_eq, h.readings_eq, Nat.add_assoc]
  clock_eq := h'.clock_eq.trans h.clock_eq
  maker_eq := h'.maker_eq.trans h.maker_eq

/-- Work that uses nothing up before and after other work does not count. -/
theorem between {w₂ : Workshop} (before : Spends w w₁ [] [] 0) (h : Spends w₁ w₂ keys serials readings)
    (after : Spends w₂ w' [] [] 0) : Spends w w' keys serials readings := by
  have all := (before.trans h).trans after
  rwa [List.nil_append, List.nil_append, List.append_nil, List.append_nil, Nat.zero_add] at all

end Spends

/-- The keys that were taken from the supply between two states of a workshop. -/
def keysDrawn (w w' : Workshop) : List (Except Fault Rsa.KeyPair) :=
  w.keys.take (w.keys.length - w'.keys.length)

theorem Spends.keysDrawn_eq {w w' : Workshop} {keys : List (Except Fault Rsa.KeyPair)}
    {serials : List (Except Fault Datum)} {readings : Nat} (h : Spends w w' keys serials readings) :
    keysDrawn w w' = keys := by
  rw [keysDrawn, h.keys_eq, List.length_append, Nat.add_sub_cancel, List.take_left]

end CertMint
