import CertMint.Proofs.Success

/-! # Which certificates of a chain are current

A certificate is valid from its window's first moment to its last, both cut to whole seconds. In a
chain that was built a short while ago all are current but the one that was to be expired.
-/

namespace CertMint.Mint

open X509

/-! ## One certificate -/

/-- The end of a window at some distance from now, as certificates state it. -/
def cut (now : Moment) (span : Int) : Int := (now.instant + span) / second * second

theorem instant_eq_cut {now m : Moment} {span : Int}
    (h : (Moment.toUniversal? ⟨now.clock + span, now.offset⟩).map Moment.truncate = some m) :
    m.instant = cut now span := by
  simp only [Moment.toUniversal?] at h
  split at h
  · obtain rfl := Option.some.inj h
    have shift : now.clock + span - now.offset.getD 0 = now.clock - now.offset.getD 0 + span := by omega
    rw [Moment.instant_of_universal rfl, Moment.truncate, shift, cut, Moment.instant]
  · cases h

/-- The inspection of a certificate succeeds as of every moment with an offset, and finds it current
    between the ends of its window. -/
theorem IssuedAs.exists_current_iff {f : Forge} {issuer subject : Rsa.KeyPair} {valid : Bool}
    {distance : Nat} {serial : Datum} {now t : Moment} {c : Certificate}
    (h : IssuedAs f issuer subject valid distance serial now c) (accepted : f.settings.Accepted)
    (aware : t.offset.isSome = true) :
    c.notAfter.instant = cut now (Window.closing f.settings valid) ∧
      ∃ d, describeAt c t = .ok d ∧
        (d.current = true ↔ cut now (Window.opening f.settings valid) ≤ t.instant ∧
          t.instant ≤ cut now (Window.closing f.settings valid)) := by
  obtain ⟨validity, window, builds⟩ := h
  have built := built_of_build builds
  have follows := Window.follows_of_ofSettings accepted window
  have notBefore := built.notBefore_eq
  have notAfter := built.notAfter_eq
  simp only [specOf, follows.notBefore_eq] at notBefore
  simp only [specOf, follows.notAfter_eq] at notAfter
  obtain ⟨offset, known⟩ := Option.isSome_iff_exists.mp aware
  obtain ⟨d, described, describes⟩ := built.exists_describes rfl rfl known
  refine ⟨instant_eq_cut notAfter, d, described, ?_⟩
  rw [describes.current_iff, instant_eq_cut notBefore, instant_eq_cut notAfter]

/-! ## Chains -/

/-- The datum for no position or for one in the chain. -/
def positionDatum : Option (Fin 4) → Datum
  | none => .none
  | some i => .int i.val

theorem same_positionDatum (i : Fin 4) (position : Option (Fin 4)) :
    Datum.same (.int i.val) (positionDatum position) = decide (position = some i) := by
  cases position with
  | none => simp [positionDatum, Datum.same, Datum.sameNumber?, Datum.int?]
  | some j => simp [positionDatum, Datum.same, Datum.sameNumber?, Datum.int?, Fin.ext_iff, eq_comm]

/-- The window of a certificate that is to be valid holds a moment after its reading of the clock. -/
theorem cut_valid {s : Settings} {now t : Moment} (accepted : s.Accepted) (late : now.instant ≤ t.instant)
    (soon : t.instant ≤ now.instant + s.days .validNotAfter * day - second) :
    cut now (Window.opening s true) ≤ t.instant ∧ t.instant ≤ cut now (Window.closing s true) := by
  obtain ⟨began, -⟩ := Window.opening_le_and_lt_closing accepted
  have ends : Window.closing s true = s.days .validNotAfter * day := rfl
  simp only [cut, ends, day, second] at soon ⊢
  omega

/-- The window of a certificate that is to be expired ended before now. -/
theorem cut_expired {s : Settings} {now t : Moment} (accepted : s.Accepted)
    (late : now.instant ≤ t.instant) : cut now (Window.closing s false) < t.instant := by
  have ended := Window.closing_lt accepted
  simp only [cut, second]
  omega

/-- For a while after a chain was built from accepted settings, exactly the certificate at the given
    position is not current, because it has expired: from the last reading of the clock, which must
    not go back, until a second before the valid window as of the first reading ends. -/
theorem current_iff_of_chain {b : Builder} {position : Option (Fin 4)} {w w' : Workshop} {chain : Chain}
    {first last t : Moment} (checked : b.forge.settings.check = .ok b.forge.settings)
    (steady : ∀ i j m m', i ≤ j → w.clock i = some m → w.clock j = some m' → m.instant ≤ m'.instant)
    (built : (b.chain (positionDatum position)).perform w = (.ok chain, w'))
    (firstReading : w.clock w.readings = some first)
    (lastReading : w.clock (w'.readings - 1) = some last)
    (aware : t.offset.isSome = true) (late : last.instant ≤ t.instant)
    (soon : t.instant ≤ first.instant + b.forge.settings.days .validNotAfter * day - second) :
    (∀ i : Fin 4, ∃ d, describeAt (chain.at_ i) t = .ok d ∧
      (d.current = true ↔ position ≠ some i)) ∧
    ∀ i, position = some i → (chain.at_ i).notAfter.instant < t.instant := by
  obtain ⟨-, accepted⟩ := Settings.accepted_of_check checked
  obtain ⟨root, keys, serials, spends, descent⟩ := descent_of_chain built
  -- each certificate's reading of the clock lies between the first and the last one
  have issued : ∀ i : Fin 4, ∃ issuer subject serial now, first.instant ≤ now.instant ∧
      now.instant ≤ t.instant ∧ IssuedAs b.forge issuer subject (decide (position ≠ some i)) i serial now
        (chain.at_ i) := by
    intro i
    obtain ⟨issuer, subject, serial, now, c, at_, shows, issued⟩ :=
      descent.exists_issuedAs (Nat.le_of_lt_succ i.isLt)
    obtain rfl : chain.at_ i = c := (List.getElem?_eq_some_iff.mp at_).2
    rw [same_positionDatum, ← decide_not] at issued
    have readings := spends.readings_eq
    exact ⟨issuer, subject, serial, now, steady _ _ _ _ (by omega) firstReading shows,
      (steady _ _ _ _ (by omega) shows lastReading).trans late, issued⟩
  refine ⟨fun i => ?_, fun i expired => ?_⟩
  · obtain ⟨_, _, _, now, early, past, issued⟩ := issued i
    obtain ⟨_, d, described, current⟩ := issued.exists_current_iff accepted aware
    refine ⟨d, described, current.trans ?_⟩
    by_cases expired : position = some i
    · have ended := cut_expired accepted past
      simp only [expired, ne_eq, not_true_eq_false, decide_false, iff_false, not_and]
      intro _ open_
      exact absurd open_ (Int.not_le.mpr ended)
    · have holds := cut_valid accepted past (by omega)
      simp only [ne_eq, expired, not_false_eq_true, decide_true, iff_true]
      exact holds
  · obtain ⟨_, _, _, now, _, past, issued⟩ := issued i
    obtain ⟨ends, _⟩ := issued.exists_current_iff accepted aware
    rw [ends, expired]
    simp only [ne_eq, not_true_eq_false, decide_false]
    exact cut_expired accepted past

/-- In a chain of the default builder all but the root, which is asked for as expired, are current as
    of the last reading of the clock. -/
theorem current_iff_of_chain_stocked :
    ∃ chain w' last, (defaultBuilder.chain (positionDatum (some 3))).perform stockedWorkshop =
      (.ok chain, w') ∧ stockedWorkshop.clock (w'.readings - 1) = some last ∧
      (∀ i : Fin 4, ∃ d, describeAt (chain.at_ i) last = .ok d ∧
        (d.current = true ↔ some (3 : Fin 4) ≠ some i)) := by
  obtain ⟨chain, w', built⟩ := supplied_stockedWorkshop.exists_chain able_defaultBuilder
    (show Builder.checkPosition (positionDatum (some 3)) = .ok () from rfl)
  obtain ⟨_, _, _, spends, _⟩ := descent_of_chain built
  have readings : w'.readings - 1 = 3 := by
    rw [spends.readings_eq]
    rfl
  have lastReading : stockedWorkshop.clock (w'.readings - 1) =
      some ⟨Calendar.dayOf ⟨2024, 6, 15⟩ * day + 3 * second, some 0⟩ := by
    rw [readings]
    rfl
  have steady : ∀ i j m m', i ≤ j → stockedWorkshop.clock i = some m →
      stockedWorkshop.clock j = some m' → m.instant ≤ m'.instant := by
    rintro i j _ _ order ⟨⟩ ⟨⟩
    simp only [Moment.instant, second]
    omega
  obtain ⟨current, _⟩ := current_iff_of_chain rfl steady built rfl lastReading rfl (Int.le_refl _)
    (by decide)
  exact ⟨chain, w', _, built, lastReading, current⟩

end CertMint.Mint
