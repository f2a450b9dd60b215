import CertMint.Proofs.KeyNames
import CertMint.Proofs.Lineage
import CertMint.Proofs.Provision

/-! # Single certificates

A single certificate is one for the end of a chain. The key pair that is drawn first is the one that it
certifies; the second, which is drawn unless the certificate is to sign itself, signs it.
-/

namespace CertMint.Mint

open X509

/-! ## How it is made -/

section Making

variable {b : Builder} {valid selfSigned : Bool} {w w' : Workshop} {c : Certificate}

/-- What was drawn for a single certificate, and what it was issued as. -/
structure SingleDraw (b : Builder) (valid selfSigned : Bool) (w w' : Workshop) (c : Certificate)
    (issuer subject : Rsa.KeyPair) (serial : Datum) (now : Moment) : Prop where
  spends : Spends w w' (if selfSigned then [.ok subject] else [.ok subject, .ok issuer]) [.ok serial] 1
  issuer_eq : selfSigned = true → issuer = subject
  shows : w.clock w.readings = some now
  issued : IssuedAs b.forge issuer subject valid 0 serial now c

theorem exists_draw_of_singleWork (h : (singleWork b valid selfSigned).perform w = (.ok c, w')) :
    ∃ issuer subject serial now, SingleDraw b valid selfSigned w w' c issuer subject serial now := by
  obtain ⟨subject, w₁, generation, rest⟩ := Work.perform_bind_eq_ok.mp h
  have first := drawn_of_generate generation
  cases selfSigned with
  | true =>
      have issue : (b.forge.issue (some subject) (some subject) (.bool valid) (.int (0 : Nat))).perform w₁ =
          (.ok c, w') := rest
      obtain ⟨serial, now, spends, shows, issued⟩ := issued_of_issue issue
      rw [first.clock_eq, first.readings_eq] at shows
      exact ⟨subject, subject, serial, now, first.trans spends, fun _ => rfl, shows, issued⟩
  | false =>
      rw [if_neg Bool.false_ne_true] at rest
      obtain ⟨issuer, w₂, generation', last⟩ := Work.perform_bind_eq_ok.mp rest
      have both := first.trans (drawn_of_generate generation')
      have issue : (b.forge.issue (some issuer) (some subject) (.bool valid) (.int (0 : Nat))).perform w₂ =
          (.ok c, w') := last
      obtain ⟨serial, now, spends, shows, issued⟩ := issued_of_issue issue
      rw [both.clock_eq, both.readings_eq] at shows
      exact ⟨issuer, subject, serial, now, both.trans spends, nofun, shows, issued⟩

theorem exists_draw_of_single (h : (b.single (.bool valid) (.bool selfSigned)).perform w = (.ok c, w')) :
    ∃ issuer subject serial now, SingleDraw b valid selfSigned w w' c issuer subject serial now := by
  obtain ⟨made, w₁, measured, rest⟩ := Work.perform_bind_eq_ok.mp h
  obtain ⟨same, rfl⟩ := Prod.mk.inj rest
  obtain rfl := Except.ok.inj same
  obtain ⟨v, v', work, before, after⟩ := exists_of_measuredIf measured
  obtain ⟨issuer, subject, serial, now, draw⟩ := exists_draw_of_singleWork work
  have all := before.toSpends.between draw.spends after.toSpends
  have shows := draw.shows
  rw [before.toSpends.clock_eq, before.toSpends.readings_eq] at shows
  exact ⟨issuer, subject, serial, now, {
    spends := ⟨all.keys_eq, all.serials_eq, all.readings_eq, all.clock_eq, all.maker_eq⟩
    issuer_eq := draw.issuer_eq
    shows := shows
    issued := draw.issued }⟩

end Making

/-! ## What it says -/

namespace IssuedAs

variable {f : Forge} {issuer subject : Rsa.KeyPair} {valid : Bool} {distance : Nat} {serial : Datum}
  {now t : Moment} {c : Certificate}

/-- The signature of a certificate fits the key that issued it. -/
theorem verify_eq_true (h : IssuedAs f issuer subject valid distance serial now c)
    (consistent : issuer.Consistent) :
    ∃ digest, c.outerAlgorithm.rsaDigest? = some digest ∧
      Rsa.verify issuer.publicKey digest c.signed c.signature = true := by
  obtain ⟨_, _, builds⟩ := h
  have built := built_of_build builds
  exact ⟨f.digest, built.digest_eq, Rsa.verify_of_sign? consistent built.signed⟩

theorem extensions_eq_nil (h : IssuedAs f issuer subject valid 0 serial now c) : c.extensions = [] := by
  obtain ⟨_, _, builds⟩ := h
  rcases (built_of_build builds).extensions_eq with ⟨-, -, none⟩ | ⟨n, authority, -⟩
  · exact none
  · cases authority

theorem exists_describeAt (h : IssuedAs f issuer subject valid distance serial now c)
    (aware : t.offset.isSome = true) : ∃ d, describeAt c t = .ok d := by
  obtain ⟨_, _, builds⟩ := h
  obtain ⟨offset, known⟩ := Option.isSome_iff_exists.mp aware
  obtain ⟨d, described, -⟩ := (built_of_build builds).exists_describes rfl rfl known
  exact ⟨d, described⟩

/-- A certificate is not issued by itself, nor described so, if its keys have different names. -/
theorem not_selfSigned (h : IssuedAs f issuer subject valid distance serial now c)
    (apart : keyName issuer.publicKey ≠ keyName subject.publicKey) :
    (∀ v, ∃ v', (issuedBy c c).perform v = (.ok false, v')) ∧
      ∀ t : Moment, t.offset.isSome = true → ∃ d, describeAt c t = .ok d ∧ d.selfSigned = false := by
  constructor
  · intro v
    obtain ⟨found, v', asked, accepts⟩ := exists_issuedBy c c v
    cases found with
    | false => exact ⟨v', asked⟩
    | true =>
        obtain ⟨names, -⟩ := rejection?_eq_none_iff.mp (accepts.mp rfl)
        rw [h.issuer_eq, h.subject_eq] at names
        exact absurd names apart
  · intro t aware
    obtain ⟨d, described⟩ := h.exists_describeAt aware
    obtain ⟨-, -, same⟩ := names_of_describeAt described
    refine ⟨d, described, ?_⟩
    rw [h.issuer_eq, h.subject_eq] at same
    rw [same, Bool.eq_false_iff, ne_eq, same_keyName_iff]
    exact apart

/-- For a while after the clock was read a certificate is current exactly if it was to be. -/
theorem current_eq (h : IssuedAs f issuer subject valid distance serial now c)
    (accepted : f.settings.Accepted) (aware : t.offset.isSome = true) (late : now.instant ≤ t.instant)
    (soon : t.instant ≤ now.instant + f.settings.days .validNotAfter * day - second) :
    ∃ d, describeAt c t = .ok d ∧ d.current = valid := by
  obtain ⟨-, d, described, current⟩ := h.exists_current_iff accepted aware
  refine ⟨d, described, ?_⟩
  cases valid with
  | true => exact current.mpr (cut_valid accepted late soon)
  | false =>
      have ended := cut_expired accepted late
      rw [Bool.eq_false_iff, ne_eq, current]
      intro open_
      omega

end IssuedAs

/-! ## Single certificates -/

/-- A certificate that signs itself: one key pair was drawn for it. -/
structure SignsItself (w w' : Workshop) (subject : Rsa.KeyPair) (c : Certificate) : Prop where
  keys_eq : w.keys = .ok subject :: w'.keys
  issuer_eq : c.issuer = c.subject
  issuedBy_self : ∀ v, (issuedBy c c).perform v = (.ok true, v)

/-- A certificate that another key pair signs, which was drawn after that of the certificate. -/
structure SignedByNext (w w' : Workshop) (subject issuer : Rsa.KeyPair) (c : Certificate) : Prop where
  keys_eq : w.keys = .ok subject :: .ok issuer :: w'.keys
  issuer_eq : c.issuer = keyName issuer.publicKey
  verifies : ∃ digest, c.outerAlgorithm.rsaDigest? = some digest ∧
    Rsa.verify issuer.publicKey digest c.signed c.signature = true
  not_selfSigned : keyName issuer.publicKey ≠ keyName subject.publicKey →
    (∀ v, ∃ v', (issuedBy c c).perform v = (.ok false, v')) ∧
      ∀ t : Moment, t.offset.isSome = true → ∃ d, describeAt c t = .ok d ∧ d.selfSigned = false

/-- A single certificate is that of the first key pair drawn. It is no authority's, has the one serial
    number drawn, and signs itself or is signed by the second key pair, as it was asked for. From the reading
    of the clock until a second before a valid window would end, it is current exactly if it was asked for as
    valid. -/
theorem single_of_draws {b : Builder} {valid selfSigned : Bool} {w w' : Workshop} {c : Certificate}
    (checked : b.forge.settings.check = .ok b.forge.settings)
    (consistent : ∀ k, .ok k ∈ keysDrawn w w' → Rsa.KeyPair.Consistent k)
    (built : (b.single (.bool valid) (.bool selfSigned)).perform w = (.ok c, w')) :
    ∃ subject serial now,
      c.key = some subject.publicKey ∧ c.subject = keyName subject.publicKey ∧
      Certificate.ofDer c.der = .ok c ∧ c.extensions = [] ∧
      w.serials = .ok serial :: w'.serials ∧ serial.int? = some c.serial ∧
      (if selfSigned then SignsItself w w' subject c else ∃ issuer, SignedByNext w w' subject issuer c) ∧
      w.clock w.readings = some now ∧
      ∀ t : Moment, t.offset.isSome = true → now.instant ≤ t.instant →
        t.instant ≤ now.instant + b.forge.settings.days .validNotAfter * day - second →
          ∃ d, describeAt c t = .ok d ∧ d.current = valid := by
  obtain ⟨-, accepted⟩ := Settings.accepted_of_check checked
  obtain ⟨issuer, subject, serial, now, draw⟩ := exists_draw_of_single built
  have issued := draw.issued
  have spends := draw.spends
  rw [spends.keysDrawn_eq] at consistent
  refine ⟨subject, serial, now, issued.key_eq, issued.subject_eq, issued.issued.ofDer_eq_ok,
    issued.extensions_eq_nil, spends.serials_eq, issued.serial_eq, ?_, draw.shows,
    fun t aware late soon => issued.current_eq accepted aware late soon⟩
  cases selfSigned with
  | true =>
      obtain rfl := draw.issuer_eq rfl
      have self : c.rejection? c = none :=
        issued.rejection?_eq_none issued (consistent issuer List.mem_cons_self)
      exact {
        keys_eq := spends.keys_eq
        issuer_eq := issued.issuer_eq.trans issued.subject_eq.symm
        issuedBy_self := perform_issuedBy self }
  | false =>
      have sound : issuer.Consistent := consistent issuer (by simp)
      exact ⟨issuer, {
        keys_eq := spends.keys_eq
        issuer_eq := issued.issuer_eq
        verifies := issued.verify_eq_true sound
        not_selfSigned := issued.not_selfSigned }⟩

/-- An expired certificate of the default builder for the first of two key pairs that share a modulus, signed
    by the second. -/
theorem single_of_draws_firstKeys :
    ∃ c w', (defaultBuilder.single (.bool false) (.bool false)).perform (workshopWith firstKeys) =
        (.ok c, w') ∧
      (∀ k, .ok k ∈ keysDrawn (workshopWith firstKeys) w' → Rsa.KeyPair.Consistent k) ∧
      (∀ v, ∃ v', (issuedBy c c).perform v = (.ok false, v')) ∧
      ∃ t d, describeAt c t = .ok d ∧ d.current = false := by
  have long : ∀ k ∈ firstKeys.take 2, 94 ≤ Octets.byteLength k.modulus := by decide +kernel
  have supplied : Supplied {} (workshopWith firstKeys) 2 1 := {
    keys := ⟨firstKeys.take 2, (firstKeys.drop 2).map .ok, rfl, rfl, long⟩
    serials := ⟨[1], [.ok (.int 2), .ok (.int 3), .ok (.int 4)], rfl, rfl, by decide⟩
    clock := fun n inside => supplied_stockedWorkshop.clock n (by omega) }
  have able : Able (workshopWith firstKeys).maker defaultBuilder := able_defaultBuilder
  obtain ⟨c, w', built⟩ := supplied.exists_single able false false
  have consistent : ∀ k, .ok k ∈ keysDrawn (workshopWith firstKeys) w' → Rsa.KeyPair.Consistent k := by
    intro k member
    have drawn : Except.ok k ∈ firstKeys.map .ok := List.mem_of_mem_take member
    obtain ⟨k', known, same⟩ := List.mem_map.mp drawn
    obtain rfl := Except.ok.inj same
    exact consistent_firstKeys_secondKeys k' (List.mem_append_left _ known)
  obtain ⟨subject, serial, now, -, -, -, -, -, -, signed, shows, current⟩ :=
    single_of_draws rfl consistent built
  obtain ⟨issuer, signed⟩ := signed
  have apart : keyName issuer.publicKey ≠ keyName subject.publicKey := by
    have keys := signed.keys_eq
    simp only [workshopWith, firstKeys, List.map_cons, List.cons.injEq, Except.ok.injEq] at keys
    obtain ⟨rfl, rfl, -⟩ := keys
    decide +kernel
  obtain rfl := Option.some.inj shows
  obtain ⟨d, described, expired⟩ := current _ rfl (Int.le_refl _) (by decide)
  exact ⟨c, w', built, consistent, (signed.not_selfSigned apart).1, _, d, described, expired⟩

end CertMint.Mint
