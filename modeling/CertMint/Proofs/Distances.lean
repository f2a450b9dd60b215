import CertMint.Proofs.Obstacles

/-! # Distances and path lengths

How far a certificate is to be from the end of its chain decides whether it is an authority's, and with
which path length. A distance that is negative stops a forge before it has drawn anything, one that is too
great only when the certificate is to be signed; every distance between gives a certificate.
-/

namespace CertMint.Mint

open X509

/-! ## What a distance asks for -/

/-- A certificate has the basic constraints of a distance: none at the end of a chain, and above it those of
    an authority, once and critical, with a path length that is one less than the distance. -/
def AtDistance : Nat → Certificate → Prop
  | 0, c => (∀ x ∈ c.extensions, x.oid ≠ Extension.basicConstraints) ∧ c.pathLength = .ok none
  | below + 1, c => (∃ x, c.extensions.filter (·.oid == Extension.basicConstraints) = [x] ∧
      x.critical = true ∧ Extension.constraints? x.content = some (true, some below)) ∧
    c.pathLength = .ok (some below)

theorem Built.atDistance {digest : Digest.Algorithm} {issuer subject : Rsa.KeyPair} {distance : Nat}
    {serial : Datum} {validity : Window} {c : Certificate}
    (h : Built digest (specOf issuer subject distance serial validity) issuer subject c) :
    AtDistance distance c := by
  have low := h.distance_le
  obtain ⟨_, checked, extensions⟩ := h.extensions
  rw [checkPathLength_specOf] at checked
  obtain rfl := Except.ok.inj checked
  rw [extensionsFor_distance, if_pos low] at extensions
  have extensions_eq := (Except.ok.inj extensions).symm
  obtain ⟨pathLength, read, same⟩ := h.pathLength_eq
  cases distance with
  | zero =>
      cases pathLength with
      | none => exact ⟨by simp [extensions_eq], read⟩
      | some n => cases same
  | succ below =>
      have small : below < 2 ^ 64 := low
      rw [if_neg (Nat.succ_ne_zero below), Nat.add_sub_cancel] at extensions_eq
      refine ⟨⟨Extension.ofAuthority below, ?_, rfl, Extension.constraints?_ofAuthority small⟩, ?_⟩
      · rw [extensions_eq]
        rfl
      · cases pathLength with
        | none => simp [specOf, Datum.int?] at same
        | some n =>
            obtain rfl : n = below := by simpa [specOf, Datum.int?] using same
            exact read

/-! ## Issuing at a distance -/

/-- A moment that can be a bound of a signed validity. -/
def Dated (m : Moment) : Prop := ∃ u, m.toUniversal? = some u ∧ firstMoment.clock ≤ u.clock

/-- Nothing but the distance can keep a forge from issuing a certificate with a key: the next serial number
    can be signed, and so can the bounds of the window as of what the clock shows next; the engine signs with
    the forge's digest, and the key is long enough for it. -/
structure Issuable (f : Forge) (issuer : Rsa.KeyPair) (valid : Bool) (w : Workshop) (serial : Datum) :
    Prop where
  next : ∃ rest, w.serials = .ok serial :: rest
  inRange : ∃ i, serial.int? = some i ∧ 0 < i ∧ i < 2 ^ 159
  window : ∃ now window, w.clock w.readings = some now ∧
    Window.ofSettings f.settings valid now = .ok window ∧ Dated window.notBefore ∧ Dated window.notAfter
  named : ∃ algorithm, SignatureAlgorithm.ofDigest? f.digest = some algorithm
  signs : ∀ message, ∃ signature, Rsa.sign? issuer f.digest message = some signature

namespace Issuable

variable {f : Forge} {issuer : Rsa.KeyPair} {valid : Bool} {w : Workshop} {serial : Datum}

/-- Up to the bound on path lengths there is a certificate for every distance, and beyond it the engine
    refuses to sign. -/
theorem certificateFor_cases (issuable : Issuable f issuer valid w serial) (subject : Rsa.KeyPair)
    (distance : Nat) :
    (distance ≤ 2 ^ 64 → ∃ c, certificateFor f issuer subject valid distance serial
      (w.clock w.readings) = .ok c ∧ AtDistance distance c) ∧
    (2 ^ 64 < distance → certificateFor f issuer subject valid distance serial (w.clock w.readings) =
      .error (.signature tooDistant)) := by
  obtain ⟨now, window, shows, made, ⟨_, universal, late⟩, _, universal', late'⟩ := issuable.window
  obtain ⟨i, isInt, positive, small⟩ := issuable.inRange
  have signable := exists_checkSerial isInt positive small
  have notBefore := exists_checkBound_of_universal "before" universal late
  have notAfter := exists_checkBound_of_universal "after" universal' late'
  have extensions := extensionsFor_distance distance
  have checked := checkPathLength_specOf issuer subject distance serial window
  simp only [certificateFor, shows, made]
  constructor
  · intro low
    rw [if_pos low] at extensions
    obtain ⟨c, builds⟩ : ∃ c, build f.digest (specOf issuer subject distance serial window) issuer
        subject = .ok c :=
      exists_build_of_signs issuable.named issuable.signs signable notBefore notAfter ⟨_, _, checked, extensions⟩
    exact ⟨c, by rw [builds]; rfl, (built_of_build builds).atDistance⟩
  · intro distant
    rw [if_neg (Nat.not_le.mpr distant)] at extensions
    rw [build_of_extensionsFor_error issuable.named signable notBefore notAfter checked extensions]
    rfl

theorem exists_issue (issuable : Issuable f issuer valid w serial) (subject : Rsa.KeyPair) {distance : Nat}
    (low : distance ≤ 2 ^ 64) :
    ∃ c w', (f.issue (some issuer) (some subject) (.bool valid) (.int distance)).perform w = (.ok c, w') ∧
      Spends w w' [] [.ok serial] 1 ∧ AtDistance distance c := by
  obtain ⟨rest, next⟩ := issuable.next
  obtain ⟨c, made, at_⟩ := (issuable.certificateFor_cases subject distance).1 low
  simp only [perform_issue, next, made]
  exact ⟨c, _, rfl, ⟨rfl, next, rfl, rfl, rfl⟩, at_⟩

theorem perform_issue_distant (issuable : Issuable f issuer valid w serial) (subject : Rsa.KeyPair)
    {distance : Nat} (distant : 2 ^ 64 < distance) :
    ∃ w', (f.issue (some issuer) (some subject) (.bool valid) (.int distance)).perform w =
      (.error (tooDistant.asFailure "certificate signing"), w') ∧ Spends w w' [] [.ok serial] 1 := by
  obtain ⟨rest, next⟩ := issuable.next
  have refused := (issuable.certificateFor_cases subject distance).2 distant
  simp only [perform_issue, next, refused]
  exact ⟨_, rfl, rfl, next, rfl, rfl, rfl⟩

end Issuable

/-- Without both key pairs, or for a negative distance, nothing is drawn and nothing read. -/
theorem perform_issue_refused (f : Forge) {issuer subject : Option Rsa.KeyPair} (valid : Datum) {distance : Int}
    (wrong : issuer = none ∨ subject = none ∨ distance < 0) (w : Workshop) :
    ∃ e, (f.issue issuer subject valid (.int distance)).perform w = (.error e, w) ∧ e.kind = .value := by
  cases issuer with
  | none => exact ⟨_, rfl, rfl⟩
  | some issuer =>
      cases subject with
      | none => exact ⟨_, rfl, rfl⟩
      | some subject =>
          have negative : distance < 0 := by simpa using wrong
          have below : order "<" (.int distance) 0 = .ok (some (compare distance 0)) := rfl
          rw [Int.compare_eq_lt.mpr negative] at below
          simp only [Forge.issue, Forge.describe, Work.perform_bind, Work.perform_ofExcept, below, if_true]
          exact ⟨_, rfl, rfl⟩

/-! ## Chains -/

/-- Whether a certificate has basic constraints, as those above the end of a chain do. -/
def isConstrained (c : Certificate) : Bool := c.extensions.any (·.oid == Extension.basicConstraints)

theorem AtDistance.isConstrained_eq {distance : Nat} {c : Certificate} (h : AtDistance distance c) :
    isConstrained c = decide (0 < distance) := by
  cases distance with
  | zero =>
      obtain ⟨none, -⟩ := h
      simpa [isConstrained] using none
  | succ below =>
      obtain ⟨⟨x, only, -⟩, -⟩ := h
      have member : x ∈ c.extensions.filter (·.oid == Extension.basicConstraints) := by simp [only]
      obtain ⟨inside, isBasic⟩ := List.mem_filter.mp member
      simpa [isConstrained] using ⟨x, inside, by simpa using isBasic⟩

/-- Where each certificate is at the distance of its index, all but the first one are constrained. -/
theorem countP_take_isConstrained {cs : List Certificate}
    (each : ∀ i c, cs[i]? = some c → AtDistance i c) {i : Nat} (inside : i ≤ cs.length) :
    (cs.take i).countP isConstrained = i - 1 := by
  induction i with
  | zero => simp
  | succ i ih =>
      have at_ : cs[i]? = some cs[i] := List.getElem?_eq_getElem inside
      rw [List.take_add_one, List.countP_append, ih (Nat.le_of_succ_le inside), at_]
      simp only [Option.toList_some, List.countP_singleton, (each i _ at_).isConstrained_eq, decide_eq_true_eq]
      split <;> omega

theorem atDistance_of_chain {b : Builder} {invalid : Datum} {w w' : Workshop} {chain : Chain}
    (built : (b.chain invalid).perform w = (.ok chain, w')) {i : Nat} {c : Certificate}
    (at_ : chain.certificates[i]? = some c) : AtDistance i c := by
  obtain ⟨inside, rfl⟩ := List.getElem?_eq_some_iff.mp at_
  rw [chain.length_eq] at inside
  obtain ⟨_, _, _, _, _, _, _, builds⟩ := exists_issuedAs_of_chain built ⟨i, inside⟩
  exact (built_of_build builds).atDistance

/-! ## The law -/

/-- A forge refuses a negative distance, or a key pair that is missing, with everything left as it was. When
    nothing else is in the way, it issues a certificate with the basic constraints of every distance up to the
    bound on path lengths, and fails to sign for every greater one because a value has the wrong type; either
    way it has drawn one serial number and read the clock once. So in a chain each certificate but the first
    has as its path length how many of those below it are authorities. -/
theorem pathLength_of_distance {f : Forge} {issuer : Rsa.KeyPair} {valid : Bool} {w : Workshop} {serial : Datum}
    (issuable : Issuable f issuer valid w serial) (subject : Rsa.KeyPair) (distance : Int) :
    (∀ (issuer' subject' : Option Rsa.KeyPair) (v : Workshop),
      issuer' = none ∨ subject' = none ∨ distance < 0 →
        ∃ e, (f.issue issuer' subject' (.bool valid) (.int distance)).perform v = (.error e, v) ∧
          e.kind = .value) ∧
    (0 ≤ distance → distance ≤ 2 ^ 64 →
      ∃ c w', (f.issue (some issuer) (some subject) (.bool valid) (.int distance)).perform w =
        (.ok c, w') ∧ Spends w w' [] [.ok serial] 1 ∧ AtDistance distance.toNat c) ∧
    (2 ^ 64 < distance →
      ∃ e cause w', (f.issue (some issuer) (some subject) (.bool valid) (.int distance)).perform w =
        (.error e, w') ∧ Spends w w' [] [.ok serial] 1 ∧
          e.kind = .operationFailed (.text "certificate signing") ∧ e.cause? = some cause ∧
          cause.kind = .type) ∧
    ∀ (b : Builder) (invalid : Datum) (v v' : Workshop) (chain : Chain),
      (b.chain invalid).perform v = (.ok chain, v') → ∀ i : Fin 4, i ≠ 0 →
        (chain.at_ i).pathLength = .ok (some ((chain.certificates.take i).countP isConstrained)) := by
  refine ⟨fun _ _ v wrong => perform_issue_refused f (.bool valid) wrong v, fun natural low => ?_,
    fun distant => ?_, fun b invalid v v' chain built i above => ?_⟩
  · lift distance to Nat using natural
    exact issuable.exists_issue subject (by exact_mod_cast low)
  · lift distance to Nat using by omega
    obtain ⟨w', run, spends⟩ := issuable.perform_issue_distant subject (by exact_mod_cast distant)
    exact ⟨_, tooDistant, w', run, spends, rfl, rfl, rfl⟩
  · have each : ∀ i c, chain.certificates[i]? = some c → AtDistance i c :=
      fun i c at_ => atDistance_of_chain built at_
    have inside : i.val < chain.certificates.length := by rw [chain.length_eq]; exact i.isLt
    have own : AtDistance i (chain.at_ i) := each i _ (List.getElem?_eq_getElem inside)
    obtain ⟨below, eq⟩ := Nat.exists_eq_succ_of_ne_zero (Fin.val_ne_zero_iff.mpr above)
    rw [eq] at own
    rw [countP_take_isConstrained each (Nat.le_of_lt inside), eq]
    exact own.2

theorem issuable_defaultBuilder :
    Issuable defaultBuilder.forge Rsa.mersennePair true stockedWorkshop (.int 1) := by
  obtain ⟨now, shows, roomy⟩ := supplied_stockedWorkshop.clock 0 (by decide)
  obtain ⟨window, made, first, last⟩ := roomy.exists_window able_defaultBuilder.accepted true
  exact {
    next := ⟨_, rfl⟩
    inRange := ⟨1, rfl, by decide, by decide⟩
    window := ⟨now, window, shows, made, ⟨_, universal_of_statable first⟩, ⟨_, universal_of_statable last⟩⟩
    named := ⟨_, rfl⟩
    signs := Rsa.exists_sign?_eq (by decide) Rsa.byteLength_mersennePair }

/-- The greatest distance that a certificate can have. -/
theorem pathLength_of_distance_bound :
    ∃ c w', (defaultBuilder.forge.issue (some Rsa.mersennePair) (some Rsa.mersennePair) (.bool true)
        (.int (2 ^ 64))).perform stockedWorkshop = (.ok c, w') ∧
      Spends stockedWorkshop w' [] [.ok (.int 1)] 1 ∧ c.pathLength = .ok (some (2 ^ 64 - 1)) := by
  obtain ⟨-, issues, -, -⟩ := pathLength_of_distance issuable_defaultBuilder Rsa.mersennePair (2 ^ 64)
  obtain ⟨c, w', run, spends, -, pathLength⟩ := issues (by decide) (by decide)
  exact ⟨c, w', run, spends, pathLength⟩

/-- The failure for the next distance is not because of a wrong value. -/
theorem cause_of_next_distance :
    Issuable defaultBuilder.forge Rsa.mersennePair true stockedWorkshop (.int 1) ∧
      ∃ e cause w', (defaultBuilder.forge.issue (some Rsa.mersennePair) (some Rsa.mersennePair) (.bool true)
          (.int (2 ^ 64 + 1 : Nat))).perform stockedWorkshop = (.error e, w') ∧
        e.kind = .operationFailed (.text "certificate signing") ∧ e.cause? = some cause ∧
        cause.kind.isValue = false := by
  obtain ⟨w', run, -⟩ := issuable_defaultBuilder.perform_issue_distant Rsa.mersennePair
    (show 2 ^ 64 < 2 ^ 64 + 1 by decide)
  exact ⟨issuable_defaultBuilder, _, tooDistant, w', run, rfl, rfl, rfl⟩

end CertMint.Mint
