import CertMint.Proofs.Issuing

/-! # Faults of keys and signatures

The engine refuses key requests and descriptions with faults of a few kinds, which are reported as failed
operations. Only what makes the key pairs may answer otherwise, to a request for one that is too large.
-/

namespace CertMint.Mint

open X509

/-! ## Faults of the engine -/

theorem isEngineFault_of_checkSerial {d : Datum} {e : Fault} (h : checkSerial d = .error e) :
    isEngineFault e.kind = true := by
  unfold checkSerial at h
  split at h
  · cases h
    rfl
  · split at h
    · cases h
      rfl
    · split at h
      · cases h
        rfl
      · cases h

theorem isEngineFault_of_checkBound {word : String} {m : Moment} {e : Fault}
    (universal : m.toUniversal?.isSome = true) (h : checkBound word m = .error e) : isEngineFault e.kind = true := by
  obtain ⟨u, eq⟩ := Option.isSome_iff_exists.mp universal
  simp only [checkBound, eq] at h
  split at h
  · cases h
    rfl
  · cases h

theorem isEngineFault_of_checkPathLength {d : Datum} {e : Fault} (h : checkPathLength d = .error e) :
    isEngineFault e.kind = true := by
  unfold checkPathLength at h
  split at h
  · cases h
  · split at h
    · split at h
      · cases h
      · cases h
        rfl
    · cases h
      rfl

theorem isEngineFault_of_checkAlgorithm {digest : Digest.Algorithm} {e : Fault}
    (h : checkAlgorithm digest = .error e) : isEngineFault e.kind = true := by
  unfold checkAlgorithm at h
  split at h
  · cases h
  · cases h
    rfl

theorem isEngineFault_of_extensionsFor {pathLength : Option Nat} {e : Fault}
    (h : extensionsFor pathLength = .error e) : isEngineFault e.kind = true := by
  cases pathLength with
  | none => cases h
  | some n =>
      simp only [extensionsFor] at h
      split at h
      · cases h
      · cases h
        rfl

/-- A description whose bounds can be told in universal time is refused with a fault of the engine
    only. -/
theorem isEngineFault_of_build {digest : Digest.Algorithm} {spec : Spec} {issuer subject : Rsa.KeyPair}
    {e : Fault} (notBefore : spec.validity.notBefore.toUniversal?.isSome = true)
    (notAfter : spec.validity.notAfter.toUniversal?.isSome = true)
    (h : build digest spec issuer subject = .error e) : isEngineFault e.kind = true := by
  rcases bind_eq_error.mp h with h | ⟨serial, -, h⟩
  · exact isEngineFault_of_checkSerial h
  rcases bind_eq_error.mp h with h | ⟨first, -, h⟩
  · exact isEngineFault_of_checkBound notBefore h
  rcases bind_eq_error.mp h with h | ⟨last, -, h⟩
  · exact isEngineFault_of_checkBound notAfter h
  rcases bind_eq_error.mp h with h | ⟨pathLength, -, h⟩
  · exact isEngineFault_of_checkPathLength h
  rcases bind_eq_error.mp h with h | ⟨algorithm, -, h⟩
  · exact isEngineFault_of_checkAlgorithm h
  rcases bind_eq_error.mp h with h | ⟨extensions, -, h⟩
  · exact isEngineFault_of_extensionsFor h
  dsimp only at h
  split at h
  · cases h
    rfl
  · cases h

/-- Such a description is not signed only because of a failed operation. -/
theorem failed_of_sign {digest : Digest.Algorithm} {spec : Spec} {issuer subject : Rsa.KeyPair}
    {e : Fault}
    (notBefore : spec.validity.notBefore.toUniversal?.isSome = true)
    (notAfter : spec.validity.notAfter.toUniversal?.isSome = true)
    (h : sign digest spec (some issuer) (some subject) = .error e) :
    e.kind.isOperationFailed = true := by
  change asSigning (build digest spec issuer subject) = .error e at h
  cases built : build digest spec issuer subject with
  | ok c =>
      rw [built] at h
      cases h
  | error f =>
      have kind := isEngineFault_of_build notBefore notAfter built
      rw [built, asSigning, if_pos kind] at h
      obtain rfl := Except.error.inj h
      rfl

theorem isEngineFault_of_order {symbol : String} {d : Datum} {i : Int} {e : Fault}
    (h : order symbol d i = .error e) : isEngineFault e.kind = true := by
  unfold order at h
  split at h
  · cases h
  · cases h
    rfl

theorem isEngineFault_of_integer {d : Datum} {e : Fault} (h : integer d = .error e) :
    isEngineFault e.kind = true := by
  unfold integer at h
  split at h
  · cases h
  · cases h
    rfl

/-- Key requests are refused with a fault of the engine, unless they are for too large a size. -/
theorem isEngineFault_of_checkRequest {maker : KeyMaker} {size exponent : Datum} {e : Fault}
    (h : checkRequest maker size exponent = .error e) : isEngineFault e.kind = true ∨
      ∃ bits, size = .int bits ∧ maker.largest.val < bits ∧ e = maker.refusal bits := by
  unfold checkRequest at h
  split at h
  · cases h
    exact .inl rfl
  · rcases bind_eq_error.mp h with h | ⟨o, -, h⟩
    · exact .inl (isEngineFault_of_order h)
    · split at h
      · cases h
        exact .inl rfl
      · rcases bind_eq_error.mp h with h | ⟨_, -, h⟩
        · exact .inl (isEngineFault_of_integer h)
        · rcases bind_eq_error.mp h with h | ⟨bits, isSize, h⟩
          · exact .inl (isEngineFault_of_integer h)
          · split at h
            · next large =>
                cases h
                exact .inr ⟨bits, integer_eq_ok_iff.mp isSize, large, rfl⟩
            · cases h

end CertMint.Mint
