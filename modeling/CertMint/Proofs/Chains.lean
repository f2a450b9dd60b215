import CertMint.Mint.Inspection
import CertMint.Proofs.Success
import Mathlib.Data.List.Chain

/-! # Chains hold together

Along a descent each certificate is issued by the one above it, because the key pair that signs a
certificate is the subject of the one above. So a chain from consistent key pairs is coherent.
-/

namespace CertMint.Mint

open X509

/-! ## Signatures along a descent -/

/-- A certificate whose signature fits the key that another certifies. -/
def SignedBy (c issuer : Certificate) : Prop :=
  ∃ key digest, issuer.key = some key ∧ c.outerAlgorithm.rsaDigest? = some digest ∧
    Rsa.verify key digest c.signed c.signature = true

theorem rejection?_eq_none_iff {c issuer : Certificate} :
    c.rejection? issuer = none ↔
      c.issuer = issuer.subject ∧ c.innerAlgorithm = c.outerAlgorithm ∧ SignedBy c issuer := by
  unfold Certificate.rejection? SignedBy
  split
  · next names => exact ⟨fun h => (by cases h), fun h => absurd h.1 names⟩
  · next names =>
      split
      · next algorithms => exact ⟨fun h => (by cases h), fun h => absurd h.2.1 algorithms⟩
      · next algorithms =>
          have named := Decidable.not_not.mp names
          have same := Decidable.not_not.mp algorithms
          split
          · next key digest known signs =>
              constructor
              · intro accepted
                refine ⟨named, same, key, digest, known, signs, ?_⟩
                by_contra fails
                rw [if_neg fails] at accepted
                cases accepted
              · rintro ⟨_, _, key', digest', known', signs', fits⟩
                cases known.symm.trans known'
                cases signs.symm.trans signs'
                exact if_pos fits
          · next other =>
              refine ⟨fun h => (by cases h), fun ⟨_, _, key, digest, known, signs, _⟩ => ?_⟩
              exact absurd signs (other key digest known)

/-- A certificate is accepted as issued by every certificate of the key that issued it. -/
theorem IssuedAs.rejection?_eq_none {f f' : Forge} {k issuer subject : Rsa.KeyPair} {valid valid' : Bool}
    {distance distance' : Nat} {serial serial' : Datum} {now now' : Moment} {c c' : Certificate}
    (h : IssuedAs f k subject valid distance serial now c)
    (h' : IssuedAs f' issuer k valid' distance' serial' now' c') (consistent : k.Consistent) :
    c.rejection? c' = none := by
  obtain ⟨_, _, builds⟩ := h
  obtain ⟨_, _, builds'⟩ := h'
  have built := built_of_build builds
  have built' := built_of_build builds'
  rw [rejection?_eq_none_iff]
  exact ⟨built.issuer_eq.trans built'.subject_eq.symm, built.algorithms_eq, k.publicKey, f.digest,
    built'.key_eq, built.digest_eq, Rsa.verify_of_sign? consistent built.signed⟩

namespace Descent

variable {b : Builder} {invalid : Datum} {clock : Nat → Option Moment} {position reading : Nat}
  {issuer subject : Rsa.KeyPair} {keys : List Rsa.KeyPair} {serials : List Datum}
  {cs : List Certificate}

theorem isChain (h : Descent b invalid clock position issuer subject reading keys serials cs)
    (consistent : ∀ k ∈ subject :: keys, k.Consistent) :
    cs.IsChain fun c c' => c.rejection? c' = none := by
  induction h with
  | last => exact .singleton _
  | @next position reading issuer subject below serial now c keys serials cs shows issued rest ih =>
      refine (ih fun k member => consistent k (List.mem_cons_of_mem _ member)).append (.singleton c) ?_
      -- the subject at this position issues the highest certificate below
      intro c' highest c'' this
      obtain rfl : c = c'' := Option.some.inj this
      obtain ⟨_, _, c₁, last, issued'⟩ := rest.getLast?_eq
      obtain rfl : c₁ = c' := Option.some.inj (last.symm.trans highest)
      exact issued'.rejection?_eq_none issued (consistent subject List.mem_cons_self)

end Descent

/-! ## Coherence -/

theorem perform_issuedBy {c issuer : Certificate} (h : c.rejection? issuer = none) (w : Workshop) :
    (issuedBy c issuer).perform w = (.ok true, w) := by
  simp only [issuedBy, h, Work.perform_pure]

theorem perform_eachIssuedByNext {cs : List Certificate}
    (h : cs.IsChain fun c c' => c.rejection? c' = none) (w : Workshop) :
    (eachIssuedByNext cs).perform w = (.ok true, w) := by
  induction h with
  | nil | singleton => rfl
  | cons_cons first _ ih =>
      simp only [eachIssuedByNext, Work.perform_bind, perform_issuedBy first, if_true, ih]

theorem Chain.getLast?_certificates (c : Chain) : c.certificates.getLast? = some c.root := by
  rw [List.getLast?_eq_getElem?, c.length_eq]
  exact List.getElem?_eq_getElem _

/-- Every certificate of a chain is what its octets are read as. -/
theorem Descent.ofDer_eq_ok {b : Builder} {invalid : Datum} {clock : Nat → Option Moment}
    {position reading : Nat} {issuer subject : Rsa.KeyPair} {keys : List Rsa.KeyPair}
    {serials : List Datum} {cs : List Certificate}
    (h : Descent b invalid clock position issuer subject reading keys serials cs) :
    ∀ c ∈ cs, Certificate.ofDer c.der = .ok c := by
  intro c member
  exact (h.issued c member).ofDer_eq_ok

/-- Whenever a chain is built from consistent key pairs, each of its four certificates is issued by the
    next one, in name and by signature, the root by itself, and the chain is found to hold together.
    This is so for every position that the chain may be asked for with, for repeated keys, and for the
    certificates as their octets are read. -/
theorem coherent_of_chain {b : Builder} {invalid : Datum} {w w' : Workshop} {chain : Chain}
    (built : (b.chain invalid).perform w = (.ok chain, w'))
    (consistent : ∀ k, .ok k ∈ keysDrawn w w' → Rsa.KeyPair.Consistent k) :
    chain.certificates.length = 4 ∧
    (∀ c ∈ chain.certificates, Certificate.ofDer c.der = .ok c) ∧
    (∀ i : Fin 3, (chain.at_ i.castSucc).issuer = (chain.at_ i.succ).subject ∧
      SignedBy (chain.at_ i.castSucc) (chain.at_ i.succ)) ∧
    (chain.root.issuer = chain.root.subject ∧ SignedBy chain.root chain.root) ∧
    ∀ v, (coherent chain).perform v = (.ok true, v) := by
  obtain ⟨root, keys, serials, spends, descent⟩ := descent_of_chain built
  rw [spends.keysDrawn_eq] at consistent
  have drawn : ∀ k ∈ root :: keys, k.Consistent := fun k member =>
    consistent k (List.mem_map_of_mem member)
  have links := descent.isChain drawn
  have self : chain.root.rejection? chain.root = none := by
    obtain ⟨_, _, c, last, issued⟩ := descent.getLast?_eq
    obtain rfl : chain.root = c := Option.some.inj (chain.getLast?_certificates.symm.trans last)
    exact issued.rejection?_eq_none issued (drawn root List.mem_cons_self)
  refine ⟨chain.length_eq, descent.ofDer_eq_ok, fun i => ?_, ?_, fun v => ?_⟩
  · have link : (chain.at_ i.castSucc).rejection? (chain.at_ i.succ) = none :=
      List.isChain_iff_getElem.mp links i.val (by rw [chain.length_eq]; exact Nat.succ_lt_succ i.isLt)
    obtain ⟨names, _, signs⟩ := rejection?_eq_none_iff.mp link
    exact ⟨names, signs⟩
  · obtain ⟨names, _, signs⟩ := rejection?_eq_none_iff.mp self
    exact ⟨names, signs⟩
  · simp only [coherent, Work.perform_bind, perform_eachIssuedByNext links, if_true,
      perform_issuedBy self]

/-- The default builder makes a coherent chain, with an expired root, from one key pair. -/
theorem coherent_of_chain_stocked :
    ∃ chain w', (defaultBuilder.chain (.int 3)).perform stockedWorkshop = (.ok chain, w') ∧
      (∀ k, .ok k ∈ keysDrawn stockedWorkshop w' → Rsa.KeyPair.Consistent k) ∧
      (∀ v, (coherent chain).perform v = (.ok true, v)) := by
  obtain ⟨chain, w', built⟩ := supplied_stockedWorkshop.exists_chain able_defaultBuilder
    (show Builder.checkPosition (.int 3) = .ok () from rfl)
  have consistent : ∀ k, .ok k ∈ keysDrawn stockedWorkshop w' → Rsa.KeyPair.Consistent k := by
    intro k member
    have stocked : Except.ok k ∈ List.replicate 4 (Except.ok Rsa.mersennePair) :=
      List.mem_of_mem_take member
    obtain rfl := Except.ok.inj (List.eq_of_mem_replicate stocked)
    exact Rsa.consistent_mersennePair
  obtain ⟨_, _, _, _, found⟩ := coherent_of_chain built consistent
  exact ⟨chain, w', built, consistent, found⟩

end CertMint.Mint
