import CertMint.CommandLine.Run
import CertMint.Proofs.Faults
import CertMint.Proofs.Success

/-! # Which faults leave generation

Faults of the engine leave generation as failed operations, and the program ends with status 1 then.
`Escapes` says what else can happen: a window leaves the years 1 to 9999. `Reports` says of work that
faults of other kinds leave it exactly then; it composes, so it is proved for each step and follows for
whole fixtures.
-/

namespace CertMint.Mint

open X509

variable {α β : Type}

/-! ## Escapes -/

/-- What makes another fault than a failed operation leave work that went from one state of a workshop
    to another. The list says of each reading of the clock whether it is for a valid window. -/
inductive Escapes (s : Settings) (windows : List Bool) (w w' : Workshop) : Prop where
  /-- A window as of a reading that was made has an end outside the years 1 to 9999. -/
  | window (n : Nat) (valid : Bool) (now : Moment) (made : w.readings + n < w'.readings)
      (turn : windows[n]? = some valid) (shows : w.clock (w.readings + n) = some now)
      (outside : Moment.inYears (now.clock + Window.opening s valid) = false ∨
        Moment.inYears (now.clock + Window.closing s valid) = false)

namespace Escapes

variable {s : Settings} {windows windows' : List Bool} {w w₁ w' : Workshop}
  {keys keys' : List (Except Fault Rsa.KeyPair)} {serials serials' : List (Except Fault Datum)}
  {readings readings' : Nat}

/-- Nothing escapes where the clock was not read. -/
theorem not_of_unread (spends : Spends w w' keys serials 0) : ¬ Escapes s windows w w' := by
  rintro ⟨n, _, _, made⟩
  rw [spends.readings_eq] at made
  omega

/-- What escapes from a piece of work escapes from work that includes it, so many readings of the clock
    after its start. -/
theorem within {v v' : Workshop} (escapes : Escapes s windows w w') (offset : Nat)
    (clock_eq : w.clock = v.clock) (start : w.readings = v.readings + offset)
    (stop : w'.readings ≤ v'.readings)
    (turns : ∀ n valid, w.readings + n < w'.readings → windows[n]? = some valid →
      windows'[offset + n]? = some valid) : Escapes s windows' v v' := by
  obtain ⟨n, valid, now, made, turn, shows, outside⟩ := escapes
  have shows' : v.clock (v.readings + (offset + n)) = some now := by
    rwa [← Nat.add_assoc, ← start, ← clock_eq]
  exact .window (offset + n) valid now (by omega) (turns n valid made turn) shows' outside

/-- What escapes from two pieces of work, one after the other, escapes from one of them. -/
theorem append_iff (first : Spends w w₁ keys serials windows.length)
    (second : Spends w₁ w' keys' serials' readings') :
    Escapes s (windows ++ windows') w w' ↔ Escapes s windows w w₁ ∨ Escapes s windows' w₁ w' := by
  have readings := first.readings_eq
  have readings' := second.readings_eq
  constructor
  · rintro ⟨n, valid, now, made, turn, shows, outside⟩
    by_cases early : n < windows.length
    · rw [List.getElem?_append_left early] at turn
      exact .inl (.window n valid now (by omega) turn shows outside)
    · rw [List.getElem?_append_right (by omega)] at turn
      refine .inr (.window (n - windows.length) valid now (by omega) turn ?_ outside)
      rwa [first.clock_eq, readings, show w.readings + windows.length + (n - windows.length) =
        w.readings + n by omega]
  · rintro (escapes | escapes)
    · refine escapes.within 0 rfl rfl (by omega) fun n valid _ turn => ?_
      obtain ⟨inside, _⟩ := List.getElem?_eq_some_iff.mp turn
      rwa [Nat.zero_add, List.getElem?_append_left inside]
    · refine escapes.within windows.length first.clock_eq readings (Nat.le_refl _) fun n valid _ turn => ?_
      rwa [List.getElem?_append_right (by omega), Nat.add_sub_cancel_left]

/-- Windows for readings that were not made do not count. -/
theorem append_iff_left (spends : Spends w w' keys serials readings) (few : readings ≤ windows.length) :
    Escapes s (windows ++ windows') w w' ↔ Escapes s windows w w' := by
  have readings := spends.readings_eq
  have same (n : Nat) (made : w.readings + n < w'.readings) :
      (windows ++ windows')[n]? = windows[n]? := List.getElem?_append_left (by omega)
  constructor
  · intro escapes
    refine escapes.within 0 rfl rfl (Nat.le_refl _) fun n valid made turn => ?_
    rwa [Nat.zero_add, ← same n made]
  · intro escapes
    refine escapes.within 0 rfl rfl (Nat.le_refl _) fun n valid made turn => ?_
    rwa [Nat.zero_add, same n made]

/-- Escapes depend on the clock and its readings only. -/
theorem of_eq {v v' : Workshop} (escapes : Escapes s windows w w') (clock_eq : w.clock = v.clock)
    (readings_eq : w.readings = v.readings) (readings_eq' : w'.readings = v'.readings) :
    Escapes s windows v v' := by
  refine escapes.within 0 clock_eq readings_eq (by omega) fun n valid _ turn => ?_
  rwa [Nat.zero_add]

end Escapes

/-! ## Reports -/

/-- Work from a state of the workshop that uses no more serial numbers and readings than there are
    windows, as many readings if it ends well, and that faults of other kinds than failed operations
    leave exactly when something escapes. -/
structure Reports (s : Settings) (windows : List Bool) (work : Work α) (w : Workshop) : Prop where
  spends : ∃ keys serials readings, Spends w (work.perform w).2 keys serials readings ∧
    serials.length ≤ windows.length ∧ readings ≤ windows.length ∧
    ∀ a, (work.perform w).1 = .ok a → readings = windows.length
  escapes_iff : (∃ e, (work.perform w).1 = .error e ∧ e.kind.isOperationFailed = false) ↔
    Escapes s windows w (work.perform w).2

namespace Reports

variable {s : Settings} {windows windows' : List Bool} {w w' : Workshop}

variable {keys : List (Except Fault Rsa.KeyPair)} {serials : List (Except Fault Datum)} {readings : Nat}
  {work : Work α}

/-- Work that ends well. -/
theorem of_ok {a : α} (run : work.perform w = (.ok a, w'))
    (spends : Spends w w' keys serials windows.length) (few : serials.length ≤ windows.length)
    (contained : ¬ Escapes s windows w w') : Reports s windows work w where
  spends := by
    rw [run]
    exact ⟨keys, serials, _, spends, few, Nat.le_refl _, fun _ _ => rfl⟩
  escapes_iff := by
    rw [run]
    exact ⟨fun ⟨_, h, _⟩ => (by cases h), fun h => absurd h contained⟩

/-- Work that ends with a failed operation. -/
theorem of_contained {e : Fault} (run : work.perform w = (.error e, w'))
    (spends : Spends w w' keys serials readings) (few : serials.length ≤ windows.length)
    (read : readings ≤ windows.length) (kind : e.kind.isOperationFailed = true)
    (contained : ¬ Escapes s windows w w') : Reports s windows work w where
  spends := by
    rw [run]
    exact ⟨keys, serials, readings, spends, few, read, fun _ h => by cases h⟩
  escapes_iff := by
    rw [run]
    refine ⟨fun ⟨_, h, other⟩ => ?_, fun h => absurd h contained⟩
    cases h
    cases kind.symm.trans other

/-- Work that ends with another fault. -/
theorem of_escapes {e : Fault} (run : work.perform w = (.error e, w'))
    (spends : Spends w w' keys serials readings) (few : serials.length ≤ windows.length)
    (read : readings ≤ windows.length) (kind : e.kind.isOperationFailed = false)
    (escapes : Escapes s windows w w') : Reports s windows work w where
  spends := by
    rw [run]
    exact ⟨keys, serials, readings, spends, few, read, fun _ h => by cases h⟩
  escapes_iff := by
    rw [run]
    exact ⟨fun _ => escapes, fun _ => ⟨e, rfl, kind⟩⟩

/-- A step that uses nothing and does not fault. -/
theorem of_nothing {a : α} (run : work.perform w = (.ok a, w')) (spends : Spends w w' [] [] 0) :
    Reports s [] work w :=
  of_ok run spends (Nat.le_refl _) (Escapes.not_of_unread spends)

/-- A piece of work after another one. -/
theorem bind {x : Work α} {f : α → Work β} (first : Reports s windows x w)
    (second : ∀ a w₁, x.perform w = (.ok a, w₁) → Reports s windows' (f a) w₁) :
    Reports s (windows ++ windows') (x >>= f) w := by
  obtain ⟨keys, serials, readings, spends, few, read, all⟩ := first.spends
  have escapes := first.escapes_iff
  rcases run : x.perform w with ⟨e | a, w₁⟩
  · have whole : (x >>= f).perform w = (.error e, w₁) := by rw [Work.perform_bind, run]
    rw [run] at spends escapes
    refine ⟨?_, ?_⟩
    · rw [whole, List.length_append]
      exact ⟨keys, serials, readings, spends, by omega, by omega, fun _ h => by cases h⟩
    · rw [whole, Escapes.append_iff_left spends read, ← escapes]
      simp only [Except.error.injEq]
  · have whole : (x >>= f).perform w = (f a).perform w₁ := by rw [Work.perform_bind, run]
    have rest := second a w₁ run
    obtain ⟨keys', serials', readings', spends', few', read', all'⟩ := rest.spends
    rw [run] at spends escapes
    obtain rfl : readings = windows.length := all a (by rw [run])
    have none_ : ¬ Escapes s windows w w₁ := fun h => by
      obtain ⟨_, failed, _⟩ := escapes.mpr h
      cases failed
    refine ⟨?_, ?_⟩
    · rw [whole]
      refine ⟨keys ++ keys', serials ++ serials', _, spends.trans spends', ?_, ?_, fun b h => ?_⟩
      · simp only [List.length_append]
        omega
      · rw [List.length_append]
        omega
      · rw [List.length_append, all' b h]
    · rw [whole, Escapes.append_iff spends spends', rest.escapes_iff]
      exact ⟨.inr, fun h => h.resolve_left none_⟩

/-- Work whose result is put into another form. -/
theorem bind_pure {x : Work α} (h : Reports s windows x w) (g : α → β) :
    Reports s windows (x >>= fun a => pure (g a)) w := by
  rw [← List.append_nil windows]
  exact h.bind fun a w₁ _ => of_nothing (Work.perform_pure w₁ (g a)) (.nothing w₁)

end Reports

/-! ## Key pairs and certificates -/

/-- A workshop whose keys fail with faults of the engine only, with positive serial numbers of up to 159
    bits for so many certificates, and with a clock of universal time. What makes the keys takes the key
    size of the settings, or refuses it with a fault of the engine. -/
structure Fair (s : Settings) (w : Workshop) (certificates : Nat) : Prop where
  keys : ∀ e, .error e ∈ w.keys → isEngineFault e.kind = true
  size : ∀ size, s.keySize = .int size → w.maker.largest.val < size →
    isEngineFault (w.maker.refusal size).kind = true
  serials : ∀ drawn ∈ w.serials, ∃ n : Int, drawn = .ok (.int n) ∧ 0 < n ∧ n < 2 ^ 159
  enough : certificates ≤ w.serials.length
  clock : ∀ n, ∃ now, w.clock n = some now ∧ now.offset = some 0 ∧ Moment.inYears now.clock = true

section Steps

variable {s : Settings} {w w' : Workshop} {keys : List (Except Fault Rsa.KeyPair)}
  {serials : List (Except Fault Datum)} {readings n m : Nat}

theorem Fair.of_spends (fair : Fair s w (m + n)) (spends : Spends w w' keys serials readings)
    (few : serials.length ≤ m) : Fair s w' n where
  keys e member := fair.keys e (spends.keys_eq ▸ List.mem_append_right _ member)
  size := spends.maker_eq ▸ fair.size
  serials drawn member := fair.serials drawn (spends.serials_eq ▸ List.mem_append_right _ member)
  enough := by
    have enough := fair.enough
    rw [spends.serials_eq, List.length_append] at enough
    omega
  clock := spends.clock_eq ▸ fair.clock

theorem reports_generate (fair : Fair s w n) : Reports s [] (generate s) w := by
  rcases run : (generate s).perform w with ⟨r, w'⟩
  have contained {f : Fault} {drawn : List (Except Fault Rsa.KeyPair)} (kind : isEngineFault f.kind = true)
      (spends : Spends w w' drawn [] 0) (run : (generate s).perform w = (.error (generationFault f), w')) :
      Reports s [] (generate s) w := by
    rw [generationFault, if_pos kind] at run
    exact .of_contained run spends (Nat.le_refl _) (Nat.le_refl _) rfl (Escapes.not_of_unread spends)
  cases generating run with
  | refused f refusal spends =>
      refine contained ?_ spends run
      rcases isEngineFault_of_checkRequest refusal with kind | ⟨size, isSize, large, rfl⟩
      · exact kind
      · exact fair.size size isSize large
  | exhausted empty spends => exact contained rfl spends run
  | failed f spends => exact contained (fair.keys f (spends.keys_eq ▸ List.mem_cons_self)) spends run
  | drawn k spends => exact .of_ok run spends (Nat.le_refl _) (Escapes.not_of_unread spends)

/-- After the issuing of one certificate only its window can have escaped. -/
theorem escapes_of_read {valid : Bool} {now : Moment} (shows : w.clock w.readings = some now)
    (escapes : Escapes s [valid] w w') :
    Moment.inYears (now.clock + Window.opening s valid) = false ∨
      Moment.inYears (now.clock + Window.closing s valid) = false := by
  obtain ⟨k, valid', now', _, turn, shows', outside⟩ := escapes
  obtain rfl : k = 0 := by
    obtain ⟨inside, _⟩ := List.getElem?_eq_some_iff.mp turn
    exact Nat.lt_one_iff.mp inside
  cases turn
  cases shows.symm.trans shows'
  exact outside

theorem contained_of_follows {valid : Bool} {now : Moment} {window : Window}
    (shows : w.clock w.readings = some now) (follows : Window.Follows s valid now window) :
    ¬ Escapes s [valid] w w' := fun escapes => by
  rcases escapes_of_read shows escapes with outside | outside
  · cases follows.opening_inYears.symm.trans outside
  · cases follows.closing_inYears.symm.trans outside

/-- In a fair workshop a certificate is not described only because its window escapes. -/
theorem escapes_of_undescribed {issuer subject : Rsa.KeyPair} {valid : Bool} {distance : Nat} {e : Fault}
    (accepted : s.Accepted) (fair : Fair s w (1 + n))
    (describing : Describing s issuer subject valid distance w w' (.error e)) :
    ∃ serial, Spends w w' [] [.ok serial] 1 ∧ e.kind = .overflow ∧ Escapes s [valid] w w' := by
  obtain ⟨now, shows, universal, known⟩ := fair.clock w.readings
  cases describing with
  | exhausted empty =>
      have enough := fair.enough
      rw [empty, List.length_nil] at enough
      omega
  | undrawn e spends =>
      obtain ⟨_, drawn, _⟩ := fair.serials (.error e) (spends.serials_eq ▸ List.mem_cons_self)
      cases drawn
  | timeless serial spends shows' => cases shows.symm.trans shows'
  | windowless serial now' e spends shows' fails =>
      cases shows.symm.trans shows'
      obtain ⟨kind, outside⟩ := Window.outside_of_ofSettings accepted known fails
      have read : w.readings + 0 < w'.readings := by
        rw [spends.readings_eq]
        omega
      exact ⟨serial, spends, kind, .window 0 valid now read rfl shows outside⟩

theorem reports_issue {f : Forge} (accepted : f.settings.Accepted) (fair : Fair f.settings w (1 + n))
    (issuer subject : Rsa.KeyPair) (valid : Bool) (distance : Nat) :
    Reports f.settings [valid]
      (f.issue (some issuer) (some subject) (.bool valid) (.int distance)) w := by
  rcases run : (f.issue (some issuer) (some subject) (.bool valid) (.int distance)).perform w with ⟨r, w'⟩
  cases issuing run with
  | undescribed e describing =>
      obtain ⟨serial, spends, kind, escapes⟩ := escapes_of_undescribed accepted fair describing
      exact .of_escapes run spends (Nat.le_refl _) (Nat.le_refl _) (by rw [kind]; rfl) escapes
  | unsigned serial now validity e spends shows window fails =>
      have follows := Window.follows_of_ofSettings accepted window
      obtain ⟨_, shows', universal, _⟩ := fair.clock w.readings
      cases shows.symm.trans shows'
      obtain ⟨first, last⟩ := follows.toUniversal? universal
      have failed := failed_of_sign (Option.isSome_iff_exists.mpr ⟨_, first⟩)
        (Option.isSome_iff_exists.mpr ⟨_, last⟩) fails
      exact .of_contained run spends (Nat.le_refl _) (Nat.le_refl _) failed
        (contained_of_follows shows follows)
  | unwritable serial now validity c spends shows window builds long =>
      obtain ⟨⟨_, writes⟩, _, writes'⟩ := exists_plain?_of_build builds
      rcases long with long | long
      · cases long.symm.trans writes
      · cases long.symm.trans writes'
  | issued serial now validity c spends shows window builds =>
      have follows := Window.follows_of_ofSettings accepted window
      exact .of_ok run spends (Nat.le_refl _) (contained_of_follows shows follows)

theorem Fair.of_generate {k : Rsa.KeyPair} (fair : Fair s w n)
    (run : (generate s).perform w = (.ok k, w')) : Fair s w' n :=
  Fair.of_spends (m := 0) (by rwa [Nat.zero_add]) (drawn_of_generate run) (Nat.le_refl _)

theorem Fair.of_issue {f : Forge} {issuer subject : Rsa.KeyPair} {valid : Bool} {distance : Nat}
    {c : Certificate} (fair : Fair s w (1 + n))
    (run : (f.issue (some issuer) (some subject) (.bool valid) (.int distance)).perform w = (.ok c, w')) :
    Fair s w' n := by
  obtain ⟨_, _, spends, _⟩ := issued_of_issue run
  exact fair.of_spends spends (Nat.le_refl _)

theorem Fair.of_nothing (fair : Fair s w n) (spends : Spends w w' [] [] 0) : Fair s w' n :=
  Fair.of_spends (m := 0) (by rwa [Nat.zero_add]) spends (Nat.le_refl _)

end Steps

/-! ## Fixtures -/

/-- Which certificates from a position down have the valid window, in the order in which they are
    issued. -/
def windowsFrom (invalid : Datum) : Nat → List Bool
  | 0 => [!Datum.same (.int 0) invalid]
  | position + 1 => (!Datum.same (.int (position + 1)) invalid) :: windowsFrom invalid position

/-- Which certificates of a fixture have the valid window, in the order in which they are issued. -/
def Scenario.windows : Scenario → List Bool
  | .validChain => [true, true, true, true]
  | .expiredIntermediateChain => [true, true, false, true]
  | .expiredRootChain => [false, true, true, true]
  | .valid | .selfSigned => [true]
  | .expired | .expiredSelfSigned => [false]

section Fixtures

variable {b : Builder} {w : Workshop}

theorem reports_certificatesFrom {invalid : Datum} {issuer subject : Rsa.KeyPair} {position : Nat}
    (accepted : b.forge.settings.Accepted) (same : b.settings = b.forge.settings)
    (fair : Fair b.forge.settings w (1 + position)) :
    Reports b.forge.settings (windowsFrom invalid position)
      (b.certificatesFrom invalid issuer subject position) w := by
  induction position generalizing issuer subject w with
  | zero => exact (reports_issue accepted fair issuer subject _ 0).bind_pure _
  | succ position ih =>
      rw [Builder.certificatesFrom, same]
      show Reports _ ([!Datum.same (.int (position + 1)) invalid] ++ ([] ++ windowsFrom invalid position))
        _ w
      have enough : Fair b.forge.settings w (1 + (1 + position)) := by rwa [Nat.add_comm 1 position]
      refine (reports_issue accepted enough issuer subject _ (position + 1)).bind fun c w₁ issue => ?_
      have left := enough.of_issue issue
      refine (reports_generate left).bind fun next w₂ generation => ?_
      exact (ih (left.of_generate generation)).bind_pure _

/-- Measured work reports as the work does. -/
theorem reports_measuredIf {s : Settings} {windows : List Bool} {operation : String}
    {extra : List (String × Datum)} {work : Work α} (wanted : Bool)
    (h : ∀ w₁, Spends w w₁ [] [] 0 → Reports s windows work w₁) :
    Reports s windows (measuredIf wanted operation extra work) w := by
  rcases run : (measuredIf wanted operation extra work).perform w with ⟨r, w'⟩
  obtain ⟨w₁, w₂, inner, before, after⟩ := exists_of_measuredIf run
  obtain ⟨⟨keys, serials, readings, spends, few, read, all⟩, escapes_iff⟩ := h w₁ before.toSpends
  rw [inner] at spends all escapes_iff
  refine ⟨?_, ?_⟩
  · rw [run]
    exact ⟨keys, serials, readings, before.toSpends.between spends after.toSpends, few, read, all⟩
  · rw [run]
    exact escapes_iff.trans
      ⟨fun h => h.of_eq before.clock_eq before.readings_eq after.readings_eq.symm,
        fun h => h.of_eq before.clock_eq.symm before.readings_eq.symm after.readings_eq⟩

theorem reports_chain (accepted : b.forge.settings.Accepted) (same : b.settings = b.forge.settings)
    (fair : Fair b.forge.settings w 4) (invalid : Datum)
    (position : Builder.checkPosition invalid = .ok ()) :
    Reports b.forge.settings (windowsFrom invalid 3) (b.chain invalid) w := by
  have checked (w₁ : Workshop) : (Work.ofExcept (Builder.checkPosition invalid)).perform w₁ =
      (.ok (), w₁) := by rw [Work.perform_ofExcept, position]
  show Reports _ ([] ++ (windowsFrom invalid 3 ++ [])) (b.chain invalid) w
  refine (Reports.of_nothing (checked w) (.nothing w)).bind fun _ w₁ run => ?_
  obtain ⟨-, rfl⟩ := Prod.mk.inj ((checked w).symm.trans run)
  refine (reports_measuredIf b.measures fun w₂ before => ?_).bind fun cs w₂ measured => ?_
  · have fair₂ := fair.of_nothing before
    show Reports _ ([] ++ windowsFrom invalid 3) _ w₂
    rw [same]
    refine (reports_generate fair₂).bind fun root w₃ generation => ?_
    exact reports_certificatesFrom accepted same (fair₂.of_generate generation)
  · obtain ⟨_, written⟩ := exists_plain?_of_checkPosition position
    obtain ⟨_, _, _, _, descent⟩ := descent_of_measuredIf measured
    obtain ⟨_, _, finished, spends⟩ := exists_chain_of_length written descent.length_eq w₂
    exact .of_nothing finished spends

theorem reports_single (accepted : b.forge.settings.Accepted) (same : b.settings = b.forge.settings)
    (fair : Fair b.forge.settings w 1) (valid selfSigned : Bool) :
    Reports b.forge.settings [valid] (b.single (.bool valid) (.bool selfSigned)) w := by
  have shown (flag : Bool) (w₁ : Workshop) : (Work.ofExcept (Datum.bool flag).plain).perform w₁ =
      (.ok (if flag then "True" else "False"), w₁) := by
    rw [Work.perform_ofExcept]
    rfl
  show Reports _ ([valid] ++ []) (b.single (.bool valid) (.bool selfSigned)) w
  refine (reports_measuredIf b.measures fun w₁ before => ?_).bind fun c w₁ measured => ?_
  · have fair₁ := fair.of_nothing before
    show Reports _ ([] ++ ([] ++ [valid])) _ w₁
    rw [same]
    refine (reports_generate fair₁).bind fun subject w₂ generation => ?_
    have fair₂ := fair₁.of_generate generation
    cases selfSigned with
    | true =>
        have kept : Reports b.forge.settings [] (pure subject : Work _) w₂ :=
          .of_nothing (Work.perform_pure w₂ subject) (.nothing w₂)
        refine kept.bind fun issuer w₃ run => ?_
        obtain ⟨-, rfl⟩ := Prod.mk.inj run
        exact reports_issue (n := 0) accepted fair₂ issuer subject valid 0
    | false =>
        refine (reports_generate fair₂).bind fun issuer w₃ generation₃ => ?_
        exact reports_issue (n := 0) accepted (fair₂.of_generate generation₃) issuer subject valid 0
  · have end_ : ∃ w₂, (do
        let shownValid ← Work.ofExcept (Datum.bool valid).plain
        let shownSelf ← Work.ofExcept (Datum.bool selfSigned).plain
        Work.note (.of .info chainLogger ("Built single certificate (valid: " ++ shownValid
          ++ ", self-signed: " ++ shownSelf ++ ")"))
        return c : Work Certificate).perform w₁ = (.ok c, w₂) ∧ Spends w₁ w₂ [] [] 0 := by
      simp only [Work.perform_bind, shown, Work.perform_note, Work.perform_pure]
      exact ⟨_, rfl, rfl, rfl, rfl, rfl, rfl⟩
    obtain ⟨_, run, spends⟩ := end_
    exact .of_nothing run spends

theorem reports_fixture (accepted : b.forge.settings.Accepted) (same : b.settings = b.forge.settings)
    (fair : Fair b.forge.settings w 4) (scenario : Scenario) :
    Reports b.forge.settings scenario.windows (b.fixture scenario) w := by
  have fair₁ : Fair b.forge.settings w 1 := { fair with enough := Nat.le_trans (by decide) fair.enough }
  cases scenario <;> simp only [Builder.fixture, map_eq_pure_bind]
  case validChain => exact (reports_chain accepted same fair .none rfl).bind_pure _
  case expiredIntermediateChain => exact (reports_chain accepted same fair (.int 1) rfl).bind_pure _
  case expiredRootChain => exact (reports_chain accepted same fair (.int 3) rfl).bind_pure _
  all_goals exact (reports_single accepted same fair₁ _ _).bind_pure _

end Fixtures

/-! ## Windows in the past -/

open CommandLine

/-- Settings whose valid window began so many days ago. -/
def backdated (days : Int) : Settings := { validNotBefore := .int days }

/-- The facade of these settings, as the program wires it. -/
def backdatedFacade (days : Int) : Facade := ⟨backdated days, .sha256, true⟩

/-- A workshop in which it is always the middle of 2024. -/
def stillWorkshop : Workshop :=
  { stockedWorkshop with clock := fun _ => some ⟨Calendar.dayOf ⟨2024, 6, 15⟩ * day, some 0⟩ }

/-- A request for a certificate signed with its own key. -/
def selfSignedRequest : Request := ⟨some .selfSigned, none, false, none⟩

/-- Outlets with no files. -/
def bareOutlets : Log.Outlets := { files := ⟨[]⟩, directory := "" }

theorem fair_stillWorkshop (days : Int) : Fair (backdated days) stillWorkshop 4 where
  keys e member := by
    cases List.eq_of_mem_replicate member
  size size isSize large := by
    cases isSize
    exact absurd large (by decide)
  serials drawn member := by
    have integer : drawn ∈ ([1, 2, 3, 4] : List Int).map fun n => .ok (.int n) := member
    obtain ⟨n, among, rfl⟩ := List.mem_map.mp integer
    have inRange : ∀ n ∈ ([1, 2, 3, 4] : List Int), 0 < n ∧ n < 2 ^ 159 := by decide
    exact ⟨n, rfl, inRange n among⟩
  enough := Nat.le_refl _
  clock _ := ⟨_, rfl, rfl, rfl⟩

theorem wire_backdated (days : Int) : (Facade.wire (backdated days) true).perform stillWorkshop =
    (.ok (backdatedFacade days), stillWorkshop) := rfl

/-- Whether work ends with a failed operation (`some true`) or with another fault (`some false`). -/
def faultOf (work : Work α) (w : Workshop) : Option Bool :=
  match (work.perform w).1 with
  | .error e => some e.kind.isOperationFailed
  | .ok _ => none

theorem exists_of_faultOf {work : Work α} {w : Workshop} {failed : Bool}
    (h : faultOf work w = some failed) :
    ∃ e w', work.perform w = (.error e, w') ∧ e.kind.isOperationFailed = failed := by
  rcases run : work.perform w with ⟨e | _, w'⟩
  · rw [faultOf, run] at h
    exact ⟨e, w', rfl, Option.some.inj h⟩
  · rw [faultOf, run] at h
    cases h

/-- A century ago is before 1950, and the engine refuses to sign. -/
theorem faultOf_backdated_century :
    faultOf ((backdatedFacade 36500).generate .selfSigned) stillWorkshop = some true := by
  decide +kernel

/-- There is no moment 999999 days ago, and the engine is not asked to sign. -/
theorem faultOf_backdated_ages :
    faultOf ((backdatedFacade 999999).generate .selfSigned) stillWorkshop = some false := by
  decide +kernel

/-! ## The program -/

/-- The program ends with status 1 after a failed operation, and with any other fault itself. -/
theorem ending_of_produce {f : Facade} {request : Request} {scenario : Scenario} {o : Log.Outlets}
    {start w w' : Workshop} {e : Fault} (asked : request.scenario = some scenario)
    (wired : (Facade.wire f.settings true).perform start = (.ok f, w))
    (run : (f.generate scenario).perform w = (.error e, w')) :
    (produce request f.settings o start).ending =
      if e.kind.isOperationFailed then .status 1 else .fault e := by
  have minted : (mint f.settings request.scenario).perform start = (.error e, w') := by
    rw [asked, mint, Work.perform_bind, wired]
    exact run
  rw [produce, minted]
  dsimp only
  cases e.kind.isOperationFailed <;> rfl

/-- What the facade faults with is a failed operation, unless something escapes; the program ends with
    status 1 in the one case and with the fault in the other. -/
theorem fault_escapes_iff {f : Facade} {scenario : Scenario} {w w' : Workshop} {r : Except Fault Fixture}
    (accepted : f.settings.check = .ok f.settings) (fair : Fair f.settings w 4)
    (run : (f.generate scenario).perform w = (r, w')) :
    ((∃ e, r = .error e ∧ e.kind.isOperationFailed = false) ↔
      Escapes f.settings scenario.windows w w') ∧
    ∀ (request : Request) (o : Log.Outlets) (start : Workshop) (e : Fault),
      request.scenario = some scenario →
      (Facade.wire f.settings true).perform start = (.ok f, w) → r = .error e →
      (¬ Escapes f.settings scenario.windows w w' →
        (produce request f.settings o start).ending = .status 1) ∧
      (Escapes f.settings scenario.windows w w' →
        (produce request f.settings o start).ending = .fault e) := by
  have known := (Settings.accepted_of_check accepted).2
  have escapes : (∃ e, r = .error e ∧ e.kind.isOperationFailed = false) ↔
      Escapes f.settings scenario.windows w w' := by
    have reports : Reports f.settings scenario.windows (f.generate scenario) w :=
      reports_fixture (b := f.builder) known rfl fair scenario
    have iff_ := reports.escapes_iff
    rwa [run] at iff_
  refine ⟨escapes, fun request o start e asked wired same => ?_⟩
  subst same
  have ending : (produce request f.settings o start).ending = _ := ending_of_produce asked wired run
  rw [ending]
  refine ⟨fun contained => ?_, fun escaped => ?_⟩
  · cases failed : e.kind.isOperationFailed with
    | true => rfl
    | false => exact absurd (escapes.mp ⟨e, rfl, failed⟩) contained
  · obtain ⟨_, same, other⟩ := escapes.mpr escaped
    obtain rfl := Except.error.inj same
    rw [other]
    rfl

/-- A window that begins a century ago is refused by the engine, and the program ends with status 1. One
    that begins before the year 1 escapes. -/
theorem fault_escapes_iff_backdated :
    (produce selfSignedRequest (backdated 36500) bareOutlets stillWorkshop).ending = .status 1 ∧
    ∃ e w', Escapes (backdated 999999) Scenario.selfSigned.windows stillWorkshop w' ∧
      (produce selfSignedRequest (backdated 999999) bareOutlets stillWorkshop).ending = .fault e := by
  constructor
  · obtain ⟨e, w', run, failed⟩ := exists_of_faultOf faultOf_backdated_century
    obtain ⟨iff_, ending⟩ := fault_escapes_iff rfl (fair_stillWorkshop _) run
    refine (ending selfSignedRequest bareOutlets stillWorkshop e rfl (wire_backdated _) rfl).1 fun h => ?_
    obtain ⟨_, same, other⟩ := iff_.mpr h
    obtain rfl := Except.error.inj same
    cases failed.symm.trans other
  · obtain ⟨e, w', run, failed⟩ := exists_of_faultOf faultOf_backdated_ages
    obtain ⟨iff_, ending⟩ := fault_escapes_iff rfl (fair_stillWorkshop _) run
    have escapes := iff_.mp ⟨e, rfl, failed⟩
    exact ⟨e, w', escapes,
      (ending selfSignedRequest bareOutlets stillWorkshop e rfl (wire_backdated _) rfl).2 escapes⟩

/-- Accepted settings, a fair workshop, and a fault that is no failed operation: nothing handles it. -/
theorem backdated_not_contained :
    (backdated 999999).check = .ok (backdated 999999) ∧ Fair (backdated 999999) stillWorkshop 4 ∧
    ∃ e w', ((backdatedFacade 999999).generate .selfSigned).perform stillWorkshop = (.error e, w') ∧
      e.kind.isOperationFailed = false ∧
      (produce selfSignedRequest (backdated 999999) bareOutlets stillWorkshop).ending = .fault e := by
  obtain ⟨e, w', run, failed⟩ := exists_of_faultOf faultOf_backdated_ages
  refine ⟨rfl, fair_stillWorkshop _, e, w', run, failed, ?_⟩
  have ending : (produce selfSignedRequest (backdated 999999) bareOutlets stillWorkshop).ending = _ :=
    ending_of_produce (f := backdatedFacade 999999) rfl (wire_backdated 999999) run
  rw [ending, failed]
  rfl

end CertMint.Mint
