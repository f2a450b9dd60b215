import CertMint.Proofs.Pem
import CertMint.Proofs.ReadBack
import Mathlib.Logic.Function.Basic

/-! # Names that stand for keys

A name derived from a key is the Base64 of a digest of the key's encoding. Each step can be undone but the
digest: keys are read back from their encodings, digests from their Base64, texts from their octets and
from the names' one line. So two keys with one name are one key, or their encodings collide.
-/

namespace CertMint

open X509

/-! ## Encoded keys -/

theorem Rsa.PublicKey.encode_injective : Function.Injective Rsa.PublicKey.encode := by
  intro left right equal
  have read (k : Rsa.PublicKey) :
      (Der.single? k.encode).bind Rsa.PublicKey.ofElement? = some k := by
    have single : Der.single? k.encode = some (Der.Element.ofParts (keyParts k)) :=
      Der.single?_eq (Der.reads_sequence _)
    rw [single, Option.bind_some, ofElement?_keyParts]
  apply Option.some.inj
  rw [← read left, equal, read right]

namespace Digest.Sha2

theorem length_digest_sha256 (octets : List UInt8) : (sha256.digest octets).length = 32 := by
  simp [digest, sha256, State.words]

/-- Two messages that are not the same have one digest. -/
def Collide (h : Sha2) (left right : List UInt8) : Prop :=
  left ≠ right ∧ h.digest left = h.digest right

theorem digest_eq_iff {h : Sha2} {left right : List UInt8} (apart : ¬ h.Collide left right) :
    h.digest left = h.digest right ↔ left = right := by
  constructor
  · intro equal
    by_contra other
    exact apart ⟨other, equal⟩
  · intro equal
    rw [equal]

end Digest.Sha2

/-! ## Base64 for URLs -/

namespace Text.Base64

/-- A character of the alphabet for URLs. -/
def IsUrlCharacter (c : Char) : Prop := c.isAlphanum = true ∨ c = '-' ∨ c = '_'

instance (c : Char) : Decidable (IsUrlCharacter c) := inferInstanceAs (Decidable (_ ∨ _))

theorem isUrlCharacter_urlDigit {n : Nat} (small : n < 64) : IsUrlCharacter (urlDigit n) := by
  have all : ∀ n < 64, IsUrlCharacter (urlDigit n) := by decide
  exact all n small

theorem IsUrlCharacter.toNat_lt {c : Char} (h : IsUrlCharacter c) : c.toNat < 0x80 := by
  rcases h with letterOrDigit | rfl | rfl
  · have ranges : ((decide (65 ≤ c.val ∧ c.val ≤ 90) || (97 ≤ c.val && c.val ≤ 122)) ||
        (48 ≤ c.val && c.val ≤ 57)) = true := letterOrDigit
    simp [UInt32.le_iff_toNat_le] at ranges
    omega
  · decide
  · decide

/-- The character of the usual alphabet that stands for what a character for URLs does. -/
def usual (c : Char) : Char := if c = '-' then '+' else if c = '_' then '/' else c

theorem usual_urlDigit {n : Nat} (small : n < 64) : usual (urlDigit n) = digit n := by
  have all : ∀ n < 64, usual (urlDigit n) = digit n := by decide
  exact all n small

theorem map_usual_encodeWith (octets : List UInt8) :
    (encodeWith urlDigit octets).map usual = encode octets := by
  obtain ⟨ns, small, -, eq⟩ := exists_encodeWith_eq octets
  have digits : ∀ n ∈ ns, usual (urlDigit n) = digit n := fun n inside => usual_urlDigit (small n inside)
  rw [encode, eq, eq, List.map_append, List.map_map, List.map_replicate]
  exact congrArg (· ++ _) (List.map_congr_left digits)

theorem encodeWith_urlDigit_injective : Function.Injective (encodeWith urlDigit) := by
  intro left right equal
  have same := congrArg (fun cs => decode? (cs.map usual)) equal
  simpa [map_usual_encodeWith, decode?_encode] using same

end Text.Base64

/-! ## Texts of names -/

namespace X509

/-- A character that the one-line text shows as it is, wherever it stands. -/
def Attribute.Plain (c : Char) : Prop := c ≠ '\x00' ∧ c ≠ '#' ∧ c ≠ ' ' ∧ c ∉ special

theorem Attribute.plain_of_isUrlCharacter {c : Char} (h : Text.Base64.IsUrlCharacter c) : Plain c := by
  have other {d : Char} (no : ¬ Text.Base64.IsUrlCharacter d) : c ≠ d := by
    rintro rfl
    exact no h
  have noneSpecial : special.all (fun d => ¬ Text.Base64.IsUrlCharacter d) = true := by decide
  refine ⟨other (by decide), other (by decide), other (by decide), fun isSpecial => ?_⟩
  exact of_decide_eq_true (List.all_eq_true.mp noneSpecial c isSpecial) h

theorem Attribute.escape_eq_self {cs : List Char} (plain : ∀ c ∈ cs, Plain c) : escape cs = cs := by
  have inside : cs.flatMap escapeChar = cs := by
    have each : ∀ c ∈ cs, escapeChar c = [c] := by
      intro c member
      obtain ⟨notNul, -, -, ordinary⟩ := plain c member
      simp [escapeChar, notNul, ordinary]
    simp [List.flatMap_congr each]
  have first : escapeFirst cs = cs := by
    unfold escapeFirst
    split
    · next rest => exact absurd rfl (plain '#' (by simp)).2.1
    · next c rest => exact absurd rfl (plain ' ' (by simp)).2.2.1
    · rfl
  have last : escapeLast cs = cs := by
    unfold escapeLast
    split
    · next before ends =>
        have member : ' ' ∈ cs := by
          rw [← List.mem_reverse, ends]
          exact List.mem_cons_self
        exact absurd rfl (plain ' ' member).2.2.1
    · rfl
  rw [escape, inside, first, last]

namespace Name

theorem ofCommonName_injective : Function.Injective ofCommonName := by
  intro left right equal
  have octets : Text.utf8 left = Text.utf8 right := by simpa [ofCommonName] using equal
  apply Option.some.inj
  rw [← Text.ofUtf8?_utf8, octets, Text.ofUtf8?_utf8]

theorem same_ofCommonName_iff (s t : String) :
    (ofCommonName s).same (ofCommonName t) = true ↔ s = t := by
  simp [same, sameSet, ofCommonName, Attribute.same, Attribute.value?, Text.ofUtf8?_utf8, Datum.same]

end Name

end X509

namespace Mint

/-! ## Names of keys -/

/-- The text that stands for a key: 43 characters for URLs and a pad. -/
theorem exists_keyText_eq (k : Rsa.PublicKey) :
    ∃ cs : List Char, keyText k = String.ofList (cs ++ ['=']) ∧ cs.length = 43 ∧
      ∀ c ∈ cs, Text.Base64.IsUrlCharacter c := by
  obtain ⟨ns, small, count, eq⟩ :=
    Text.Base64.exists_encodeWith_eq (Digest.Sha2.sha256.digest k.encode)
  rw [Digest.Sha2.length_digest_sha256] at count eq
  refine ⟨ns.map Text.Base64.urlDigit, ?_, by simp [count], ?_⟩
  · rw [keyText, eq]
    rfl
  · intro c member
    obtain ⟨n, inside, rfl⟩ := List.mem_map.mp member
    exact Text.Base64.isUrlCharacter_urlDigit (small n inside)

theorem of_mem_keyText {k : Rsa.PublicKey} {c : Char} (member : c ∈ (keyText k).toList) :
    Text.Base64.IsUrlCharacter c ∨ c = '=' := by
  obtain ⟨cs, eq, -, digits⟩ := exists_keyText_eq k
  rw [eq, String.toList_ofList, List.mem_append, List.mem_singleton] at member
  exact member.imp_left (digits c)

theorem keyText_inj_iff (k k' : Rsa.PublicKey) :
    keyText k = keyText k' ↔
      Digest.Sha2.sha256.digest k.encode = Digest.Sha2.sha256.digest k'.encode := by
  rw [keyText, keyText, String.ofList_inj, Text.Base64.encodeWith_urlDigit_injective.eq_iff]

theorem text_keyName (k : Rsa.PublicKey) : (keyName k).text = .ok ("CN=" ++ keyText k) := by
  have shown : Attribute.escape (keyText k).toList = (keyText k).toList := by
    apply Attribute.escape_eq_self
    intro c member
    rcases of_mem_keyText member with isUrl | rfl
    · exact Attribute.plain_of_isUrlCharacter isUrl
    · exact ⟨by decide, by decide, by decide, by decide⟩
  rw [keyName, Name.text_ofCommonName, shown, String.ofList_toList]

theorem length_utf8_keyText (k : Rsa.PublicKey) : (Text.utf8 (keyText k)).length = 44 := by
  have single : ∀ c ∈ (keyText k).toList, (Text.utf8Char c).length = 1 := by
    intro c member
    rcases of_mem_keyText member with isUrl | rfl
    · simp [Text.utf8Char, isUrl.toNat_lt]
    · rfl
  obtain ⟨cs, eq, count, -⟩ := exists_keyText_eq k
  rw [Text.utf8, List.length_flatMap, List.map_congr_left single, eq]
  simp [count]

/-- The text that stands for a key is not too long for a common name. -/
theorem commonName_keyText (k : Rsa.PublicKey) : commonName (keyText k) = .ok (keyName k) := by
  simp [commonName, length_utf8_keyText, maxCommonName, keyName]

/-- A description shows the texts of both names, and whether they are one name. -/
theorem names_of_describeAt {c : Certificate} {now : Moment} {d : Description}
    (described : describeAt c now = .ok d) :
    c.subject.text = .ok d.subject ∧ c.issuer.text = .ok d.issuer ∧
      d.selfSigned = c.issuer.same c.subject := by
  simp only [describeAt, bind_eq_ok] at described
  obtain ⟨subject, subjectText, issuer, issuerText, current, -, pathLength, -, eq⟩ := described
  obtain rfl := Except.ok.inj eq
  exact ⟨subjectText, issuerText, rfl⟩

/-- A text that the description of a certificate shows for a name, that of its subject or of its issuer. -/
def ShownAs (n : Name) (text : String) : Prop :=
  ∃ (c : Certificate) (now : Moment) (d : Description), describeAt c now = .ok d ∧
    ((c.subject = n ∧ d.subject = text) ∨ (c.issuer = n ∧ d.issuer = text))

theorem ShownAs.text_eq {n : Name} {text : String} (shown : ShownAs n text) : n.text = .ok text := by
  obtain ⟨c, now, d, described, which⟩ := shown
  obtain ⟨subjectText, issuerText, -⟩ := names_of_describeAt described
  rcases which with ⟨rfl, rfl⟩ | ⟨rfl, rfl⟩
  · exact subjectText
  · exact issuerText

theorem ShownAs.eq_of_keyName {k : Rsa.PublicKey} {text : String} (shown : ShownAs (keyName k) text) :
    text = "CN=" ++ keyText k := by
  have same := shown.text_eq
  rw [text_keyName] at same
  exact (Except.ok.inj same).symm

theorem same_keyName_iff (k k' : Rsa.PublicKey) :
    (keyName k).same (keyName k') = true ↔ keyName k = keyName k' := by
  rw [keyName, keyName, Name.same_ofCommonName_iff, Name.ofCommonName_injective.eq_iff]

theorem keyName_inj_iff (k k' : Rsa.PublicKey) :
    keyName k = keyName k' ↔
      Digest.Sha2.sha256.digest k.encode = Digest.Sha2.sha256.digest k'.encode := by
  rw [keyName, keyName, Name.ofCommonName_injective.eq_iff, keyText_inj_iff]

/-- Encodings tell keys apart, and names tell apart what the digests of the encodings do. So, unless two
    encodings collide, the names of their keys are one name exactly if the keys are one key, and so are the
    texts that descriptions show for the names: `CN=` and, never escaped, 43 characters of the alphabet for
    URLs and a pad, which is not too long for a common name. -/
theorem names_identify_keys (k k' : Rsa.PublicKey) :
    (k.encode = k'.encode → k = k') ∧
      (keyName k = keyName k' ↔
        Digest.Sha2.sha256.digest k.encode = Digest.Sha2.sha256.digest k'.encode) ∧
      ((keyName k).same (keyName k') = true ↔ keyName k = keyName k') ∧
      (¬ Digest.Sha2.sha256.Collide k.encode k'.encode →
        (keyName k = keyName k' ↔ k = k') ∧
          ∀ text text', ShownAs (keyName k) text → ShownAs (keyName k') text' →
            (text = text' ↔ k = k')) ∧
      commonName (keyText k) = .ok (keyName k) ∧
      (∃ cs : List Char, keyText k = String.ofList (cs ++ ['=']) ∧ cs.length = 43 ∧
        ∀ c ∈ cs, Text.Base64.IsUrlCharacter c) ∧
      (keyName k).text = .ok ("CN=" ++ keyText k) := by
  refine ⟨fun equal => Rsa.PublicKey.encode_injective equal, keyName_inj_iff k k', same_keyName_iff k k',
    ?_, commonName_keyText k, exists_keyText_eq k, text_keyName k⟩
  intro apart
  have digests := Digest.Sha2.digest_eq_iff apart
  rw [Rsa.PublicKey.encode_injective.eq_iff] at digests
  constructor
  · exact (keyName_inj_iff k k').trans digests
  · intro text text' shown shown'
    rw [shown.eq_of_keyName, shown'.eq_of_keyName, String.append_right_inj]
    exact (keyText_inj_iff k k').trans digests

/-- The encodings of two keys of one modulus do not collide, and the description of a certificate that one
    of them issued for the other shows two texts. -/
theorem names_identify_keys_issued :
    ¬ Digest.Sha2.sha256.Collide Rsa.mersennePair.publicKey.encode
        (Rsa.mersenneKey 13 9).publicKey.encode ∧
      ∃ issuer subject, ShownAs (keyName Rsa.mersennePair.publicKey) issuer ∧
        ShownAs (keyName (Rsa.mersenneKey 13 9).publicKey) subject ∧ issuer ≠ subject := by
  have apart : ¬ Digest.Sha2.sha256.Collide Rsa.mersennePair.publicKey.encode
      (Rsa.mersenneKey 13 9).publicKey.encode := by
    rintro ⟨-, digests⟩
    revert digests
    decide +kernel
  let spec : Spec := { turnSpec with
    issuer := keyName Rsa.mersennePair.publicKey
    subject := keyName (Rsa.mersenneKey 13 9).publicKey }
  obtain ⟨c, builds⟩ : ∃ c, build .sha256 spec Rsa.mersennePair (Rsa.mersenneKey 13 9) = .ok c :=
    exists_build (by decide) Rsa.byteLength_mersennePair
      (exists_checkSerial (i := 2 ^ 159 - 1) rfl (by decide) (by decide)) ⟨_, rfl⟩ ⟨_, rfl⟩
      ⟨some 2, _, rfl, rfl⟩
  have built := built_of_build builds
  obtain ⟨d, described, -⟩ := built.exists_describes rfl rfl (show firstMoment.offset = some 0 from rfl)
  have issuerShown : ShownAs spec.issuer d.issuer :=
    ⟨c, firstMoment, d, described, .inr ⟨built.issuer_eq, rfl⟩⟩
  have subjectShown : ShownAs spec.subject d.subject :=
    ⟨c, firstMoment, d, described, .inl ⟨built.subject_eq, rfl⟩⟩
  refine ⟨apart, d.issuer, d.subject, issuerShown, subjectShown, fun same => ?_⟩
  obtain ⟨-, -, -, named, -⟩ := names_identify_keys Rsa.mersennePair.publicKey
    (Rsa.mersenneKey 13 9).publicKey
  have one := ((named apart).2 _ _ issuerShown subjectShown).mp same
  exact absurd (congrArg Rsa.PublicKey.exponent one) (by decide)

end Mint

end CertMint
