import CertMint.Log.Outlets

/-! # Handlers that come and go

A new handler has a number of its own, so it is attached after those that are there. Detaching handlers as
they were attached in the beginning leaves none of them, however many there were: what is still to be gone
through is what is still attached.
-/

namespace CertMint.Log.Outlets

/-! ## Attaching -/

section Attaching

variable (o : Outlets) (outlet : Option Outlet)

theorem handlers_attach {h : Handler} (made : h.number < o.made)
    (new : ∀ k ∈ o.handlers, k.number ≠ h.number) : (o.attach h made).handlers = o.handlers ++ [h] := by
  have absent : ¬ o.handlers.any (·.number == h.number) = true := by
    intro there
    obtain ⟨k, member, same⟩ := List.any_eq_true.mp there
    exact new k member (eq_of_beq same)
  rw [attach, if_neg absent]

@[simp] theorem handlers_attachNew :
    (o.attachNew outlet).handlers = o.handlers ++ [⟨o.made, outlet⟩] :=
  handlers_attach _ (Nat.lt_succ_self o.made) fun k member => Nat.ne_of_lt (o.number_lt k member)

@[simp] theorem made_attachNew : (o.attachNew outlet).made = o.made + 1 := by
  rw [attachNew, attach]
  split <;> rfl

@[simp] theorem level_attachNew : (o.attachNew outlet).level = o.level := by
  rw [attachNew, attach]
  split <;> rfl

@[simp] theorem files_attachNew : (o.attachNew outlet).files = o.files := by
  rw [attachNew, attach]
  split <;> rfl

@[simp] theorem directory_attachNew : (o.attachNew outlet).directory = o.directory := by
  rw [attachNew, attach]
  split <;> rfl

end Attaching

/-! ## Detaching -/

theorem handlers_detach {o : Outlets} {h : Handler} {rest : List Handler} (all : o.handlers = h :: rest) :
    (o.detach h).handlers = rest := by
  change o.handlers.eraseP (·.number == h.number) = rest
  rw [all]
  exact List.eraseP_cons_of_pos (beq_self_eq_true h.number)

/-- The outlets with no handler attached. -/
def cleared (o : Outlets) : Outlets := { o with handlers := [], number_lt := fun _ member => nomatch member }

theorem foldl_detach {hs : List Handler} {o : Outlets} (all : o.handlers = hs) :
    hs.foldl detach o = o.cleared := by
  -- with the handler that is detached, the list to be gone through is again the one of those attached
  induction hs generalizing o with
  | nil =>
      cases o
      cases all
      rfl
  | cons h rest ih => exact ih (handlers_detach all)

/-- Nothing but the handlers changes when all of them are detached. -/
theorem detachAll_eq (o : Outlets) : o.detachAll = o.cleared := foldl_detach rfl

/-! ## Setting up logging -/

/-- The outlets with a handler for the console and no other. -/
def consoleOnly (o : Outlets) (rank : Int) : Outlets :=
  { o.cleared with level := rank }.attachNew (some (.console rank))

section Configuring

variable (o : Outlets) {logLevel : Datum} (logFile : Datum) {rank : Int}

@[simp] theorem handlers_consoleOnly :
    (o.consoleOnly rank).handlers = [⟨o.made, some (.console rank)⟩] := handlers_attachNew _ _

@[simp] theorem made_consoleOnly : (o.consoleOnly rank).made = o.made + 1 := made_attachNew _ _

@[simp] theorem level_consoleOnly : (o.consoleOnly rank).level = rank := level_attachNew _ _

theorem configure_of_rank (ranked : rankOf logLevel = .ok rank) :
    o.configure logLevel logFile =
      if !logFile.truthy then (.ok (), o.consoleOnly rank)
      else match pathOf logFile with
        | .error f => (.error f, o.consoleOnly rank)
        | .ok path => match (openLog o.directory path rank).run o.files with
          | (.ok outlet, files) => (.ok (), { o.consoleOnly rank with files }.attachNew (some outlet))
          | (.error f, files) => (.error f, { o.consoleOnly rank with files }) := by
  simp only [configure, detachAll_eq, ranked, directory_attachNew, files_attachNew]
  rfl

end Configuring

end CertMint.Log.Outlets
