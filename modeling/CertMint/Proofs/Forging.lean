import CertMint.Mint.Inspection
import CertMint.Proofs.Certificate
import CertMint.Proofs.Rsa
import CertMint.Proofs.Work

/-! # From a description to a certificate and back

What is built from a description states what the description says, and its octets are read as the
certificate that was built. `Built` collects what a certificate has to do with its description and
with the key pairs; everything that later modules say of issued certificates goes through it.
-/

namespace CertMint.Mint

open X509 Der

/-! ## Bounds of the validity -/

theorem clock_firstMoment : firstMoment.clock = Calendar.dayOf ⟨1950, 1, 1⟩ * day := by
  rw [firstMoment, Moment.ofDate, Nat.cast_zero, Int.add_zero]

/-- A bound that is let through is its moment of universal time, which certificates can state. -/
theorem checkBound_eq_ok {word : String} {m u : Moment} (h : checkBound word m = .ok u) :
    m.toUniversal? = some u ∧ Statable u := by
  unfold checkBound at h
  split at h
  · cases h
  · next u' universal =>
      split at h
      · cases h
      · next late =>
          obtain rfl := Except.ok.inj h
          refine ⟨universal, ?_⟩
          simp only [Moment.toUniversal?] at universal
          split at universal
          · next inside =>
              obtain rfl := Option.some.inj universal
              simp only [Moment.inYears, Bool.and_eq_true, decide_eq_true_eq] at inside
              rw [clock_firstMoment] at late
              exact ⟨rfl, Int.not_lt.mp late, inside.2⟩
          · cases universal

/-! ## What is built -/

section Building

variable {digest : Digest.Algorithm} {spec : Spec} {issuer subject : Rsa.KeyPair} {c : Certificate}

private theorem exists_of_build (h : build digest spec issuer subject = .ok c) :
    ∃ serial notBefore notAfter pathLength algorithm extensions signature,
      checkSerial spec.serial = .ok serial ∧
      checkBound "before" spec.validity.notBefore = .ok notBefore ∧
      checkBound "after" spec.validity.notAfter = .ok notAfter ∧
      checkPathLength spec.pathLength = .ok pathLength ∧
      SignatureAlgorithm.ofDigest? digest = some algorithm ∧
      extensionsFor pathLength = .ok extensions ∧
      Rsa.sign? issuer digest (signedPart serial algorithm spec.issuer notBefore notAfter spec.subject
        subject.publicKey extensions) = some signature ∧
      c = {
        serial, extensions, signature
        signed := signedPart serial algorithm spec.issuer notBefore notAfter spec.subject
          subject.publicKey extensions
        innerAlgorithm := algorithm
        issuer := spec.issuer
        notBefore := notBefore.truncate
        notAfter := notAfter.truncate
        subject := spec.subject
        key := some subject.publicKey
        outerAlgorithm := algorithm
        der := Der.sequence [signedPart serial algorithm spec.issuer notBefore notAfter spec.subject
          subject.publicKey extensions, algorithm.encode, Der.bitString signature] } := by
  simp only [build, bind_eq_ok] at h
  obtain ⟨serial, hs, notBefore, hb, notAfter, ha, pathLength, hp, algorithm, halg, extensions, hx,
    h⟩ := h
  split at h
  · cases h
  · next signature signed =>
      refine ⟨serial, notBefore, notAfter, pathLength, algorithm, extensions, signature, hs, hb, ha, hp,
        ?_, hx, signed, (Except.ok.inj h).symm⟩
      unfold checkAlgorithm at halg
      split at halg
      · next found => rw [found, Except.ok.inj halg]
      · cases halg

/-- What a certificate has to do with the description that it was built from. -/
structure Built (digest : Digest.Algorithm) (spec : Spec) (issuer subject : Rsa.KeyPair)
    (c : Certificate) : Prop where
  issuer_eq : c.issuer = spec.issuer
  subject_eq : c.subject = spec.subject
  key_eq : c.key = some subject.publicKey
  algorithms_eq : c.innerAlgorithm = c.outerAlgorithm
  digest_eq : c.outerAlgorithm.rsaDigest? = some digest
  signed : Rsa.sign? issuer digest c.signed = some c.signature
  serial : ∃ n, checkSerial spec.serial = .ok n ∧ c.serial = n
  notBefore : ∃ u, checkBound "before" spec.validity.notBefore = .ok u ∧ c.notBefore = u.truncate
  notAfter : ∃ u, checkBound "after" spec.validity.notAfter = .ok u ∧ c.notAfter = u.truncate
  extensions : ∃ n, checkPathLength spec.pathLength = .ok n ∧ extensionsFor n = .ok c.extensions

theorem built_of_build (h : build digest spec issuer subject = .ok c) :
    Built digest spec issuer subject c := by
  obtain ⟨serial, notBefore, notAfter, pathLength, algorithm, extensions, signature, hs, hb, ha, hp,
    halg, hx, signed, rfl⟩ := exists_of_build h
  exact {
    issuer_eq := rfl
    subject_eq := rfl
    key_eq := rfl
    algorithms_eq := rfl
    digest_eq := (SignatureAlgorithm.of_ofDigest? halg).2.2
    signed := signed
    serial := ⟨serial, hs, rfl⟩
    notBefore := ⟨notBefore, hb, rfl⟩
    notAfter := ⟨notAfter, ha, rfl⟩
    extensions := ⟨pathLength, hp, hx⟩ }

/-- What can be described is built, if the engine signs with the digest and the issuer's key is long enough
    for it. -/
theorem exists_build_of_signs (named : ∃ algorithm, SignatureAlgorithm.ofDigest? digest = some algorithm)
    (signs : ∀ message, ∃ signature, Rsa.sign? issuer digest message = some signature)
    (serial : ∃ n, checkSerial spec.serial = .ok n)
    (notBefore : ∃ u, checkBound "before" spec.validity.notBefore = .ok u)
    (notAfter : ∃ u, checkBound "after" spec.validity.notAfter = .ok u)
    (extensions : ∃ n es, checkPathLength spec.pathLength = .ok n ∧ extensionsFor n = .ok es) :
    ∃ c, build digest spec issuer subject = .ok c := by
  obtain ⟨n, serial⟩ := serial
  obtain ⟨first, notBefore⟩ := notBefore
  obtain ⟨last, notAfter⟩ := notAfter
  obtain ⟨pathLength, es, checked, extensions⟩ := extensions
  obtain ⟨algorithm, named⟩ := named
  obtain ⟨signature, signed⟩ := signs (signedPart n algorithm spec.issuer first last spec.subject
    subject.publicKey es)
  simp only [build, serial, notBefore, notAfter, checked, checkAlgorithm, named, extensions, ok_bind,
    signed]
  exact ⟨_, rfl⟩

/-- What can be described, with a key that is long enough, is built. -/
theorem exists_build (member : digest ∈ Rsa.sha2Algorithms)
    (long : 94 ≤ Octets.byteLength issuer.modulus)
    (serial : ∃ n, checkSerial spec.serial = .ok n)
    (notBefore : ∃ u, checkBound "before" spec.validity.notBefore = .ok u)
    (notAfter : ∃ u, checkBound "after" spec.validity.notAfter = .ok u)
    (extensions : ∃ n es, checkPathLength spec.pathLength = .ok n ∧ extensionsFor n = .ok es) :
    ∃ c, build digest spec issuer subject = .ok c := by
  apply exists_build_of_signs _ (Rsa.exists_sign?_eq member long) serial notBefore notAfter extensions
  simp only [Rsa.sha2Algorithms, List.mem_cons, List.not_mem_nil, or_false] at member
  rcases member with rfl | rfl | rfl | rfl <;> exact ⟨_, rfl⟩

/-- What can be described but for its extensions is refused because of them. -/
theorem build_of_extensionsFor_error {e : Fault} {pathLength : Option Nat}
    (named : ∃ algorithm, SignatureAlgorithm.ofDigest? digest = some algorithm)
    (serial : ∃ n, checkSerial spec.serial = .ok n)
    (notBefore : ∃ u, checkBound "before" spec.validity.notBefore = .ok u)
    (notAfter : ∃ u, checkBound "after" spec.validity.notAfter = .ok u)
    (checked : checkPathLength spec.pathLength = .ok pathLength)
    (refused : extensionsFor pathLength = .error e) : build digest spec issuer subject = .error e := by
  obtain ⟨n, serial⟩ := serial
  obtain ⟨first, notBefore⟩ := notBefore
  obtain ⟨last, notAfter⟩ := notAfter
  obtain ⟨algorithm, named⟩ := named
  simp only [build, serial, notBefore, notAfter, checked, checkAlgorithm, named, refused, ok_bind]
  rfl

end Building

/-! ## Bounds that are accepted -/

theorem exists_checkSerial {d : Datum} {i : Int} (isInt : d.int? = some i) (positive : 0 < i)
    (small : i < 2 ^ 159) : ∃ n, checkSerial d = .ok n := by
  have bits : ¬ 160 ≤ Octets.bitLength i.toNat := by
    have : Octets.bitLength i.toNat ≤ 159 := Octets.bitLength_le_of_lt (by omega)
    omega
  simp only [checkSerial, isInt, if_neg (Int.not_le.mpr positive), if_neg bits]
  exact ⟨_, rfl⟩

theorem exists_checkBound_of_universal (word : String) {m u : Moment} (universal : m.toUniversal? = some u)
    (late : firstMoment.clock ≤ u.clock) : ∃ u, checkBound word m = .ok u := by
  simp only [checkBound, universal, if_neg (Int.not_lt.mpr late)]
  exact ⟨_, rfl⟩

/-- A moment that can be stated is one of universal time, and not too early to be signed. -/
theorem universal_of_statable {m : Moment} (h : Statable m) :
    m.toUniversal? = some m ∧ firstMoment.clock ≤ m.clock := by
  have low := h.notBefore1950
  rw [← clock_firstMoment] at low
  refine ⟨Moment.toUniversal?_of_universal h.universal (Moment.inYears_iff.mpr ⟨?_, h.notAfter9999⟩), low⟩
  exact Int.le_trans (by decide) low

theorem exists_checkBound (word : String) {m : Moment} (h : Statable m) :
    ∃ u, checkBound word m = .ok u := by
  obtain ⟨universal, late⟩ := universal_of_statable h
  exact exists_checkBound_of_universal word universal late

/-! ## Reading what was built -/

/-- The values that are signed. -/
private def signedParts (serial : Nat) (algorithm : SignatureAlgorithm) (issuer : Name)
    (notBefore notAfter : Moment) (subject : Name) (key : Rsa.PublicKey)
    (extensions : List Extension) : List (List UInt8) :=
  Der.explicit 0 (Der.natural 2) :: Der.natural serial :: algorithm.encode :: issuer.encode ::
    Der.sequence [encodeMoment notBefore, encodeMoment notAfter] :: subject.encode :: key.encode ::
    if extensions.isEmpty then []
    else [Der.explicit 3 (Der.sequence (extensions.map Extension.encode))]

/-- Extensions are none or the basic constraints of an authority, and are read back as such. -/
private theorem readExtensions_of_extensionsFor {pathLength : Option Nat} {extensions : List Extension}
    (h : extensionsFor pathLength = .ok extensions) :
    ∃ es, List.Forall₂ Reads (if extensions.isEmpty then []
        else [Der.explicit 3 (Der.sequence (extensions.map Extension.encode))]) es ∧
      Certificate.dropBits 0x81 es = some es ∧ Certificate.dropBits 0x82 es = some es ∧
      Certificate.readExtensions es = some extensions := by
  cases pathLength with
  | none =>
      obtain rfl := Except.ok.inj h
      exact ⟨[], .nil, rfl, rfl, rfl⟩
  | some n =>
      simp only [extensionsFor] at h
      split at h
      · obtain rfl := Except.ok.inj h
        refine ⟨[Element.of 0xa3 (Der.sequence [(Extension.ofAuthority n).encode])],
          .cons (reads_value (by decide) _) .nil, rfl, rfl, ?_⟩
        have tag : (Element.of 0xa3 (Der.sequence [(Extension.ofAuthority n).encode])).tagged? 0xa3 =
            some (Der.sequence [(Extension.ofAuthority n).encode]) := rfl
        have inner : Der.single? (Der.sequence [(Extension.ofAuthority n).encode]) =
            some (Element.ofParts [(Extension.ofAuthority n).encode]) := single?_eq (reads_sequence _)
        have parts : (Element.ofParts [(Extension.ofAuthority n).encode]).sequence? =
            some [Element.ofParts (Extension.ofAuthority n).criticalParts] :=
          sequence?_ofParts (.cons (reads_sequence _) .nil)
        simp only [Certificate.readExtensions, tag, inner, parts, Option.bind_eq_bind, Option.bind_some,
          List.mapM_cons, List.mapM_nil, Extension.ofElement?_ofAuthority]
        rfl
      · cases h

private theorem bind_of_eq_some {α β : Type} {x : Option α} {a : α} (h : x = some a)
    (f : α → Option β) : (x >>= f) = f a := by
  rw [h, Option.bind_eq_bind, Option.bind_some]

private theorem takeVersion_cons (rest : List Element) :
    Certificate.takeVersion (Element.of 0xa0 (Der.natural 2) :: rest) = some (2, rest) := by
  have inner : Der.single? (Der.natural 2) = some (Element.of 0x02 (Der.naturalContent 2)) :=
    single?_eq (reads_value (by decide) _)
  have tag : (Element.of 0xa0 (Der.natural 2)).tag = 0xa0 := rfl
  have content : (Element.of 0xa0 (Der.natural 2)).content = Der.natural 2 := rfl
  simp only [Certificate.takeVersion, tag, content, inner, if_true, Option.bind_eq_bind,
    Option.bind_some, natural?_of_naturalContent]
  rfl

/-- The values that the signed octets consist of, each with what it is read as. -/
private structure SignedValues (serial : Nat) (algorithm : SignatureAlgorithm) (issuer : Name)
    (notBefore notAfter : Moment) (subject : Name) (key : Rsa.PublicKey) (extensions : List Extension)
    (algorithmValue issuerValue first last subjectValue keyValue : Element) (es : List Element) :
    Prop where
  parts : (Element.ofParts (signedParts serial algorithm issuer notBefore notAfter subject key
      extensions)).sequence? = some (Element.of 0xa0 (Der.natural 2) ::
    Element.of 0x02 (naturalContent serial) :: algorithmValue :: issuerValue ::
    Element.ofParts [encodeMoment notBefore, encodeMoment notAfter] :: subjectValue :: keyValue :: es)
  validity : (Element.ofParts [encodeMoment notBefore, encodeMoment notAfter]).sequence? =
    some [first, last]
  algorithmReads : Reads algorithm.encode algorithmValue
  algorithmRead : SignatureAlgorithm.ofElement? algorithmValue = some algorithm
  issuerRead : Name.ofElement? issuerValue = some issuer
  firstRead : readMoment? first = some notBefore.truncate
  lastRead : readMoment? last = some notAfter.truncate
  subjectRead : Name.ofElement? subjectValue = some subject
  keyForm : Certificate.isKey keyValue = true
  keyRead : Rsa.PublicKey.ofElement? keyValue = some key
  noIssuerBits : Certificate.dropBits 0x81 es = some es
  noSubjectBits : Certificate.dropBits 0x82 es = some es
  moreRead : Certificate.readExtensions es = some extensions

private theorem exists_signedValues {digest : Digest.Algorithm} {algorithm : SignatureAlgorithm}
    {before after notBefore notAfter : Moment} {pathLength : Option Nat} {extensions : List Extension}
    (serial : Nat) (issuerText subjectText : String) (key : Rsa.PublicKey)
    (halg : SignatureAlgorithm.ofDigest? digest = some algorithm)
    (hb : checkBound "before" before = .ok notBefore) (ha : checkBound "after" after = .ok notAfter)
    (hx : extensionsFor pathLength = .ok extensions) :
    ∃ algorithmValue issuerValue first last subjectValue keyValue es,
      SignedValues serial algorithm (Name.ofCommonName issuerText) notBefore notAfter
        (Name.ofCommonName subjectText) key extensions algorithmValue issuerValue first last subjectValue
        keyValue es := by
  obtain ⟨first, firstReads, firstRead⟩ := readMoment?_encodeMoment (checkBound_eq_ok hb).2
  obtain ⟨last, lastReads, lastRead⟩ := readMoment?_encodeMoment (checkBound_eq_ok ha).2
  obtain ⟨es, moreReads, noIssuerBits, noSubjectBits, moreRead⟩ := readExtensions_of_extensionsFor hx
  exact ⟨_, _, first, last, _, _, es, {
    parts := sequence?_ofParts (.cons (reads_value (by decide) _) (.cons (reads_value (by decide) _)
      (.cons (reads_sequence _) (.cons (reads_sequence _) (.cons (reads_sequence _)
        (.cons (reads_sequence _) (.cons (reads_sequence _) moreReads)))))))
    validity := sequence?_ofParts (.cons firstReads (.cons lastReads .nil))
    algorithmReads := reads_sequence _
    algorithmRead := SignatureAlgorithm.ofElement?_ofParts halg
    issuerRead := Name.ofElement?_ofCommonName issuerText
    firstRead := firstRead
    lastRead := lastRead
    subjectRead := Name.ofElement?_ofCommonName subjectText
    keyForm := isKey_keyParts key
    keyRead := ofElement?_keyParts key
    noIssuerBits := noIssuerBits
    noSubjectBits := noSubjectBits
    moreRead := moreRead }⟩

/-- The octets of a certificate whose names are common names are read as that certificate. -/
theorem ofDer_of_build {digest : Digest.Algorithm} {spec : Spec} {issuer subject : Rsa.KeyPair}
    {c : Certificate} {issuerText subjectText : String}
    (h : build digest spec issuer subject = .ok c)
    (issuerName : spec.issuer = Name.ofCommonName issuerText)
    (subjectName : spec.subject = Name.ofCommonName subjectText) :
    Certificate.ofDer c.der = .ok c := by
  obtain ⟨serial, notBefore, notAfter, pathLength, algorithm, extensions, signature, -, hb, ha, -,
    halg, hx, -, rfl⟩ := exists_of_build h
  rw [issuerName, subjectName]
  obtain ⟨algorithmValue, issuerValue, first, last, subjectValue, keyValue, es, values⟩ :=
    exists_signedValues serial issuerText subjectText subject.publicKey halg hb ha hx
  have parts := values.parts
  have signed : signedPart serial algorithm (Name.ofCommonName issuerText) notBefore notAfter
      (Name.ofCommonName subjectText) subject.publicKey extensions = Der.sequence (signedParts serial
        algorithm (Name.ofCommonName issuerText) notBefore notAfter (Name.ofCommonName subjectText)
        subject.publicKey extensions) := rfl
  rw [signed]
  -- what is signed is read before the rest; how it is made up is not looked at again
  generalize signedParts serial algorithm (Name.ofCommonName issuerText) notBefore notAfter
    (Name.ofCommonName subjectText) subject.publicKey extensions = ps at parts
  have whole : (Element.ofParts [Der.sequence ps, algorithm.encode, Der.bitString signature]).sequence? =
      some [Element.ofParts ps, algorithmValue, Element.of 0x03 (0 :: signature)] :=
    sequence?_ofParts (.cons (reads_sequence _) (.cons values.algorithmReads
      (.cons (reads_value (by decide) _) .nil)))
  have read : Certificate.read? (Der.sequence [Der.sequence ps, algorithm.encode,
      Der.bitString signature]) = some (2, {
        serial, extensions, signature
        signed := Der.sequence ps
        innerAlgorithm := algorithm
        issuer := Name.ofCommonName issuerText
        notBefore := notBefore.truncate
        notAfter := notAfter.truncate
        subject := Name.ofCommonName subjectText
        key := some subject.publicKey
        outerAlgorithm := algorithm
        der := Der.sequence [Der.sequence ps, algorithm.encode, Der.bitString signature] }) := by
    refine (bind_of_eq_some (single?_eq (reads_sequence _)) _).trans ?_
    refine (bind_of_eq_some whole _).trans ?_
    refine (bind_of_eq_some parts _).trans ?_
    refine (bind_of_eq_some (takeVersion_cons _) _).trans ?_
    refine (bind_of_eq_some values.validity _).trans ?_
    refine (if_neg (by rw [values.keyForm]; decide)).trans ?_
    refine (bind_of_eq_some values.noIssuerBits _).trans ?_
    refine (bind_of_eq_some values.noSubjectBits _).trans ?_
    refine (bind_of_eq_some (integer?_of_naturalContent serial) _).trans ?_
    refine (bind_of_eq_some values.algorithmRead _).trans ?_
    refine (bind_of_eq_some values.issuerRead _).trans ?_
    refine (bind_of_eq_some values.firstRead _).trans ?_
    refine (bind_of_eq_some values.lastRead _).trans ?_
    refine (bind_of_eq_some values.subjectRead _).trans ?_
    refine (bind_of_eq_some values.moreRead _).trans ?_
    refine (bind_of_eq_some values.algorithmRead _).trans ?_
    refine (bind_of_eq_some (bits?_of signature) _).trans ?_
    simp only [values.keyRead]
    rfl
  simp only [Certificate.ofDer, read]
  rfl

end CertMint.Mint
