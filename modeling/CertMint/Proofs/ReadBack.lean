import CertMint.Proofs.Forging
import CertMint.Proofs.KeyPairs

/-! # Descriptions read back

What a certificate that was read says, and what its inspection tells, is what the description said
that it was signed from.
-/

namespace CertMint

open X509

/-! ## Names -/

theorem X509.Name.text_ofCommonName (s : String) :
    (Name.ofCommonName s).text =
      .ok ("CN=" ++ String.ofList (Attribute.escape s.toList)) := by
  have attr : Attribute.line? ⟨Attribute.commonName, 0x0c, Text.utf8 s⟩ =
      some ("CN=" ++ String.ofList (Attribute.escape s.toList)) := by
    simp only [Attribute.line?, Attribute.value?, Text.ofUtf8?_utf8]
    rfl
  simp only [Name.text, Name.ofCommonName, List.mapM_cons, List.mapM_nil, attr, Option.pure_def,
    Option.bind_eq_bind, Option.bind_some, List.any_cons, List.any_nil, Name.repeats, Bool.or_false,
    Bool.false_eq_true, if_false]
  rfl

/-! ## Moments between others -/

/-- The moment's clock reading in universal time; a moment without offset is taken as one of it. -/
def Moment.instant (m : Moment) : Int := m.clock - m.offset.getD 0

theorem Moment.instant_of_universal {m : Moment} (h : m.offset = some 0) : m.instant = m.clock := by
  rw [instant, h, Option.getD_some, Int.sub_zero]

namespace Mint

/-- Moments can be compared if both or neither of them have an offset. -/
theorem compareMoments_of_alike {a b : Moment} (alike : a.offset.isSome = b.offset.isSome) :
    compareMoments a b = .ok (compare a.instant b.instant) := by
  cases first : a.offset <;> cases second : b.offset <;>
    simp_all [compareMoments, Moment.compare?, Moment.instant]

theorem between_of_alike {first last m : Moment} (firstAlike : first.offset.isSome = m.offset.isSome)
    (lastAlike : last.offset.isSome = m.offset.isSome) :
    Window.between first last m =
      .ok (decide (first.instant ≤ m.instant ∧ m.instant ≤ last.instant)) := by
  simp only [Window.between, compareMoments_of_alike firstAlike,
    compareMoments_of_alike lastAlike.symm, ok_bind]
  split
  · next early =>
      have : ¬ first.instant ≤ m.instant := Int.not_le.mpr (compare_gt_iff_gt.mp early)
      simp only [this, false_and, decide_false]
      rfl
  · next inTime =>
      have : first.instant ≤ m.instant := Int.not_lt.mp fun late => inTime (compare_gt_iff_gt.mpr late)
      simp only [this, true_and, ne_eq, compare_gt_iff_gt, Int.not_lt]
      rfl

/-- Moments with offsets are compared as moments of universal time. -/
theorem between_of_aware {first last m : Moment} {p q r : Int} (firstAware : first.offset = some p)
    (lastAware : last.offset = some q) (aware : m.offset = some r) :
    Window.between first last m =
      .ok (decide (first.instant ≤ m.instant ∧ m.instant ≤ last.instant)) := by
  apply between_of_alike
  · rw [firstAware, aware, Option.isSome_some, Option.isSome_some]
  · rw [lastAware, aware, Option.isSome_some, Option.isSome_some]

/-! ## Certificates that were built -/

namespace Built

variable {digest : Digest.Algorithm} {spec : Spec} {issuer subject : Rsa.KeyPair} {c : Certificate}

theorem serial_eq (h : Built digest spec issuer subject c) : spec.serial.int? = some c.serial := by
  obtain ⟨n, checked, eq⟩ := h.serial
  simp only [checkSerial] at checked
  split at checked
  · cases checked
  · next i isInt =>
      split at checked
      · cases checked
      · next positive =>
          split at checked
          · cases checked
          · obtain rfl := Except.ok.inj checked
            rw [isInt, eq, Int.toNat_of_nonneg (by omega)]

theorem notBefore_eq (h : Built digest spec issuer subject c) :
    spec.validity.notBefore.toUniversal?.map Moment.truncate = some c.notBefore := by
  obtain ⟨u, checked, eq⟩ := h.notBefore
  rw [(checkBound_eq_ok checked).1, eq, Option.map_some]

theorem notAfter_eq (h : Built digest spec issuer subject c) :
    spec.validity.notAfter.toUniversal?.map Moment.truncate = some c.notAfter := by
  obtain ⟨u, checked, eq⟩ := h.notAfter
  rw [(checkBound_eq_ok checked).1, eq, Option.map_some]

theorem offset_notBefore (h : Built digest spec issuer subject c) : c.notBefore.offset = some 0 := by
  obtain ⟨u, checked, eq⟩ := h.notBefore
  rw [eq, Moment.truncate, (checkBound_eq_ok checked).2.universal]

theorem offset_notAfter (h : Built digest spec issuer subject c) : c.notAfter.offset = some 0 := by
  obtain ⟨u, checked, eq⟩ := h.notAfter
  rw [eq, Moment.truncate, (checkBound_eq_ok checked).2.universal]

/-- The extensions are the basic constraints that the path length asks for. -/
theorem extensions_eq (h : Built digest spec issuer subject c) :
    (spec.isAuthority = false ∧ spec.pathLength.int? = none ∧ c.extensions = []) ∨
      ∃ n : Nat, spec.isAuthority = true ∧ spec.pathLength.int? = some (n : Int) ∧ n < 2 ^ 64 ∧
        c.extensions = [Extension.ofAuthority n] := by
  obtain ⟨pathLength, checked, eq⟩ := h.extensions
  unfold checkPathLength at checked
  split at checked
  · next isNone =>
      obtain rfl := Except.ok.inj checked
      exact .inl ⟨by rw [Spec.isAuthority, isNone], by rw [isNone]; rfl, (Except.ok.inj eq).symm⟩
  · next isSome =>
      have authority : spec.isAuthority = true := by
        unfold Spec.isAuthority
        split
        · next isNone => exact absurd isNone isSome
        · rfl
      split at checked
      · next i isInt =>
          split at checked
          · next natural =>
              obtain rfl := Except.ok.inj checked
              simp only [extensionsFor] at eq
              split at eq
              · next small =>
                  exact .inr ⟨i.toNat, authority, by rw [isInt, Int.toNat_of_nonneg natural], small,
                    (Except.ok.inj eq).symm⟩
              · cases eq
          · cases checked
      · cases checked

theorem pathLength_eq (h : Built digest spec issuer subject c) :
    ∃ pathLength : Option Nat, c.pathLength = .ok pathLength ∧
      pathLength.map Int.ofNat = spec.pathLength.int? := by
  rcases h.extensions_eq with ⟨-, isNone, eq⟩ | ⟨n, -, isInt, small, eq⟩
  · refine ⟨none, ?_, isNone.symm⟩
    simp only [Certificate.pathLength, eq, Certificate.repeatedExtension?, List.find?_nil]
  · refine ⟨some n, ?_, isInt.symm⟩
    have found : [Extension.ofAuthority n].find? (·.oid == Extension.basicConstraints) =
        some (Extension.ofAuthority n) := rfl
    have once : Certificate.repeatedExtension? [] [Extension.ofAuthority n] = none := rfl
    simp only [Certificate.pathLength, eq, once, found, Extension.constraints?_ofAuthority small]

end Built

/-! ## What reading gives back -/

/-- What is known of a certificate that says what a description does. -/
structure Tells (digest : Digest.Algorithm) (spec : Spec) (subject : Rsa.KeyPair) (c : Certificate) :
    Prop where
  issuer_eq : c.issuer = spec.issuer
  subject_eq : c.subject = spec.subject
  serial_eq : spec.serial.int? = some c.serial
  notBefore_eq : spec.validity.notBefore.toUniversal?.map Moment.truncate = some c.notBefore
  notAfter_eq : spec.validity.notAfter.toUniversal?.map Moment.truncate = some c.notAfter
  pathLength_eq : ∃ pathLength : Option Nat, c.pathLength = .ok pathLength ∧
    pathLength.map Int.ofNat = spec.pathLength.int?
  /-- There are basic constraints exactly for authorities. -/
  constrained_iff : (∃ x ∈ c.extensions, x.oid = Extension.basicConstraints) ↔ spec.isAuthority = true
  /-- Basic constraints are critical and those of an authority. -/
  critical : ∀ x ∈ c.extensions, x.oid = Extension.basicConstraints →
    x.critical = true ∧ ∃ n, Extension.constraints? x.content = some (true, n)
  key_eq : c.key = some subject.publicKey
  digest_eq : c.outerAlgorithm.rsaDigest? = some digest ∧ c.innerAlgorithm.rsaDigest? = some digest

/-- What the inspection of a certificate as of a moment tells of it. -/
structure Describes (spec : Spec) (c : Certificate) (now : Moment) (d : Description) : Prop where
  subject_eq : spec.subject.text = .ok d.subject
  issuer_eq : spec.issuer.text = .ok d.issuer
  serial_eq : spec.serial.int?.map toString = some d.serial
  notBefore_eq : d.notBefore = c.notBefore
  notAfter_eq : d.notAfter = c.notAfter
  pathLength_eq : d.pathLength.map Int.ofNat = spec.pathLength.int?
  current_iff : d.current = true ↔ c.notBefore.instant ≤ now.instant ∧ now.instant ≤ c.notAfter.instant

namespace Built

variable {digest : Digest.Algorithm} {spec : Spec} {issuer subject : Rsa.KeyPair} {c : Certificate}

theorem tells (h : Built digest spec issuer subject c) : Tells digest spec subject c where
  issuer_eq := h.issuer_eq
  subject_eq := h.subject_eq
  serial_eq := h.serial_eq
  notBefore_eq := h.notBefore_eq
  notAfter_eq := h.notAfter_eq
  pathLength_eq := h.pathLength_eq
  constrained_iff := by
    rcases h.extensions_eq with ⟨isEnd, -, eq⟩ | ⟨n, authority, -, -, eq⟩
    · simp only [eq, isEnd, List.not_mem_nil, false_and, exists_false, Bool.false_eq_true]
    · exact ⟨fun _ => authority, fun _ => ⟨_, eq ▸ List.mem_cons_self, rfl⟩⟩
  critical x member _ := by
    rcases h.extensions_eq with ⟨-, -, eq⟩ | ⟨n, -, -, small, eq⟩
    · rw [eq] at member
      cases member
    · rw [eq, List.mem_singleton] at member
      rw [member]
      exact ⟨rfl, some n, Extension.constraints?_ofAuthority small⟩
  key_eq := h.key_eq
  digest_eq := ⟨h.digest_eq, h.algorithms_eq ▸ h.digest_eq⟩

/-- The inspection of a certificate with common names as of a moment with an offset succeeds. -/
theorem exists_describes (h : Built digest spec issuer subject c) {issuerText subjectText : String}
    (issuerName : spec.issuer = Name.ofCommonName issuerText)
    (subjectName : spec.subject = Name.ofCommonName subjectText) {now : Moment} {offset : Int}
    (aware : now.offset = some offset) :
    ∃ d, describeAt c now = .ok d ∧ Describes spec c now d := by
  obtain ⟨pathLength, read, pathLength_eq⟩ := h.pathLength_eq
  have subjectLine := Name.text_ofCommonName subjectText
  have issuerLine := Name.text_ofCommonName issuerText
  rw [← subjectName] at subjectLine
  rw [← issuerName] at issuerLine
  let d : Description := {
    subject := "CN=" ++ String.ofList (Attribute.escape subjectText.toList)
    issuer := "CN=" ++ String.ofList (Attribute.escape issuerText.toList)
    serial := toString c.serial
    notBefore := c.notBefore
    notAfter := c.notAfter
    current := decide (c.notBefore.instant ≤ now.instant ∧ now.instant ≤ c.notAfter.instant)
    selfSigned := c.issuer.same c.subject
    pathLength
    fingerprint := Text.hex c.fingerprint }
  have described : describeAt c now = .ok d := by
    simp only [describeAt, h.subject_eq, h.issuer_eq, subjectLine, issuerLine, ok_bind, read,
      between_of_aware h.offset_notBefore h.offset_notAfter aware]
    simp only [d, h.subject_eq, h.issuer_eq]
    rfl
  exact ⟨d, described, {
      subject_eq := subjectLine
      issuer_eq := issuerLine
      serial_eq := by rw [h.serial_eq, Option.map_some]
      notBefore_eq := rfl
      notAfter_eq := rfl
      pathLength_eq := pathLength_eq
      current_iff := decide_eq_true_iff }⟩

end Built

/-! ## From descriptions through octets and back -/

theorem asSigning_eq_ok {α : Type} {r : Except Fault α} {a : α} : asSigning r = .ok a ↔ r = .ok a := by
  unfold asSigning
  split
  · rfl
  · split <;> exact ⟨fun h => (by cases h), fun h => (by cases h)⟩

/-- Signing with two key pairs is building, except in how it faults. -/
theorem sign_eq_ok {digest : Digest.Algorithm} {spec : Spec} {issuer subject : Rsa.KeyPair}
    {c : Certificate} :
    sign digest spec (some issuer) (some subject) = .ok c ↔ build digest spec issuer subject = .ok c :=
  asSigning_eq_ok

/-- Reading the octets of a signed certificate gives back what its description said, and so does the
    inspection of what was read as of any moment with an offset. -/
theorem readBack_of_sign {f : Forge} {spec : Spec} {issuer subject : Rsa.KeyPair} {c : Certificate}
    {issuerText subjectText : String} (issuerName : spec.issuer = Name.ofCommonName issuerText)
    (subjectName : spec.subject = Name.ofCommonName subjectText)
    (signed : sign f.digest spec (some issuer) (some subject) = .ok c) :
    ∃ c', Certificate.ofDer c.der = .ok c' ∧ Tells f.digest spec subject c' ∧
      ∀ now : Moment, now.offset.isSome = true →
        ∃ d, describeAt c' now = .ok d ∧ Describes spec c' now d := by
  have building := sign_eq_ok.mp signed
  have built := built_of_build building
  refine ⟨c, ofDer_of_build building issuerName subjectName, built.tells, fun now aware => ?_⟩
  obtain ⟨offset, known⟩ := Option.isSome_iff_exists.mp aware
  exact built.exists_describes issuerName subjectName known

/-- A description of an authority with the greatest serial number, from the last day of 2049, when years
    have two digits, to the first of 2050, when they have four, and an hour off universal time. -/
def turnSpec : Spec where
  issuer := Name.ofCommonName "root"
  subject := Name.ofCommonName "authority"
  serial := .int (2 ^ 159 - 1)
  validity := {
    notBefore := ⟨Calendar.dayOf ⟨2049, 12, 31⟩ * day + 500000, some 0⟩
    notAfter := ⟨Calendar.dayOf ⟨2050, 1, 1⟩ * day + 3600 * second + 250000, some (3600 * second)⟩
    ordered := by decide }
  pathLength := .int 2

theorem readBack_of_sign_turnSpec :
    ∃ c c', sign .sha256 turnSpec (some Rsa.mersennePair) (some Rsa.mersennePair) = .ok c ∧
      Certificate.ofDer c.der = .ok c' ∧ Tells .sha256 turnSpec Rsa.mersennePair c' := by
  obtain ⟨c, builds⟩ : ∃ c, build .sha256 turnSpec Rsa.mersennePair Rsa.mersennePair = .ok c :=
    exists_build (by decide) Rsa.byteLength_mersennePair
      (exists_checkSerial (i := 2 ^ 159 - 1) rfl (by decide) (by decide)) ⟨_, rfl⟩ ⟨_, rfl⟩
      ⟨some 2, _, rfl, rfl⟩
  have signed := sign_eq_ok.mpr builds
  obtain ⟨c', read, tells, _⟩ := readBack_of_sign (f := ⟨{}, .sha256⟩) rfl rfl signed
  exact ⟨c, c', signed, read, tells⟩

end Mint

end CertMint
