import CertMint.Proofs.Chains
import CertMint.Proofs.Sessions
import Mathlib.Logic.Equiv.Defs

/-! # In which order certificates hold together

Where keys have different names, a certificate is issued by one certificate only: the one above it in its
own chain. So four certificates out of many chains hold together only if they go up one chain step by
step, and stay at its root once they are there.
-/

namespace CertMint.Mint

open X509

/-! ## What is above -/

/-- The position of the issuer of the certificate at a position. The root issues itself. -/
def above (i : Fin 4) : Fin 4 := ⟨min (i.val + 1) 3, by omega⟩

theorem above_castSucc (i : Fin 3) : above i.castSucc = i.succ := by
  match i with
  | 0 | 1 | 2 => rfl

theorem Chain.forall_above_iff {c : Chain} {r : Certificate → Certificate → Prop} :
    (∀ i, r (c.at_ i) (c.at_ (above i))) ↔ c.certificates.IsChain r ∧ r c.root c.root := by
  rw [List.isChain_iff_getElem]
  constructor
  · intro all
    refine ⟨fun i inside => ?_, all 3⟩
    rw [c.length_eq] at inside
    have link := all (Fin.castSucc ⟨i, Nat.lt_of_succ_lt_succ inside⟩)
    rw [above_castSucc] at link
    exact link
  · intro ⟨links, self⟩ i
    have inside (i : Fin 3) : i.val + 1 < c.certificates.length := by
      rw [c.length_eq]
      exact Nat.succ_lt_succ i.isLt
    match i with
    | 0 => exact links 0 (inside 0)
    | 1 => exact links 1 (inside 1)
    | 2 => exact links 2 (inside 2)
    | 3 => exact self

/-! ## The verdict on four certificates -/

theorem exists_issuedBy (c issuer : Certificate) (w : Workshop) :
    ∃ found w', (issuedBy c issuer).perform w = (.ok found, w') ∧
      (found = true ↔ c.rejection? issuer = none) := by
  unfold issuedBy
  cases c.rejection? issuer with
  | none => exact ⟨true, w, rfl, by simp⟩
  | some r => exact ⟨false, _, rfl, by simp⟩

theorem exists_eachIssuedByNext (cs : List Certificate) (w : Workshop) :
    ∃ found w', (eachIssuedByNext cs).perform w = (.ok found, w') ∧
      (found = true ↔ cs.IsChain fun c c' => c.rejection? c' = none) := by
  induction cs generalizing w with
  | nil => exact ⟨true, w, rfl, by simp⟩
  | cons c rest ih =>
      cases rest with
      | nil => exact ⟨true, w, rfl, by simp⟩
      | cons issuer rest =>
          obtain ⟨first, w₁, asked, accepts⟩ := exists_issuedBy c issuer w
          obtain ⟨others, w₂, walked, chained⟩ := ih w₁
          rw [eachIssuedByNext, Work.perform_bind, asked, List.isChain_cons_cons, ← accepts, ← chained]
          cases first with
          | true => exact ⟨others, w₂, walked, by simp⟩
          | false => exact ⟨false, w₁, rfl, by simp⟩

/-- Whether a chain holds together is always found out, and does not depend on the workshop. -/
theorem exists_coherent (c : Chain) (w : Workshop) :
    ∃ found w', (coherent c).perform w = (.ok found, w') ∧
      (found = true ↔ ∀ i, (c.at_ i).rejection? (c.at_ (above i)) = none) := by
  obtain ⟨links, w₁, walked, chained⟩ := exists_eachIssuedByNext c.certificates w
  obtain ⟨self, w₂, asked, accepts⟩ := exists_issuedBy c.root c.root w₁
  rw [coherent, Work.perform_bind, walked,
    Chain.forall_above_iff (r := fun c c' => c.rejection? c' = none), ← chained, ← accepts]
  cases links with
  | true => exact ⟨self, w₂, asked, by simp⟩
  | false => exact ⟨false, w₁, rfl, by simp⟩

/-! ## Names along a descent -/

/-- The subjects, from the end up, are the key pairs of the descent, the last one drawn first. -/
theorem Descent.map_subject {b : Builder} {invalid : Datum} {clock : Nat → Option Moment}
    {position reading : Nat} {issuer subject : Rsa.KeyPair} {keys : List Rsa.KeyPair}
    {serials : List Datum} {cs : List Certificate}
    (h : Descent b invalid clock position issuer subject reading keys serials cs) :
    cs.map (·.subject) = ((subject :: keys).map fun k => keyName k.publicKey).reverse := by
  induction h with
  | last shows issued => simp [issued.subject_eq]
  | next shows issued rest ih => simp [ih, issued.subject_eq]

/-! ## Families of chains -/

/-- A chain that was built, and how. -/
structure Building where
  builder : Builder
  invalid : Datum
  before : Workshop
  after : Workshop
  chain : Chain
  built : (builder.chain invalid).perform before = (.ok chain, after)

/-- The key pairs that chains were built from. -/
def familyKeys (family : List Building) : List (Except Fault Rsa.KeyPair) :=
  family.flatMap fun m => keysDrawn m.before m.after

namespace Building

theorem map_subject (m : Building) :
    m.chain.certificates.map (·.subject) = (namesOf (keysDrawn m.before m.after)).reverse := by
  obtain ⟨root, keys, serials, spends, descent⟩ := descent_of_chain m.built
  rw [descent.map_subject, spends.keysDrawn_eq, namesOf, List.filterMap_map]
  congr 1
  rw [← List.filterMap_eq_map]
  rfl

/-- Each certificate of a chain is accepted as issued by the one above it. -/
theorem rejection?_above (m : Building)
    (consistent : ∀ k, .ok k ∈ keysDrawn m.before m.after → Rsa.KeyPair.Consistent k) (i : Fin 4) :
    (m.chain.at_ i).rejection? (m.chain.at_ (above i)) = none := by
  obtain ⟨root, keys, serials, spends, descent⟩ := descent_of_chain m.built
  rw [spends.keysDrawn_eq] at consistent
  have drawn : ∀ k ∈ root :: keys, k.Consistent := by
    intro k member
    exact consistent k (List.mem_map_of_mem member)
  have self : m.chain.root.rejection? m.chain.root = none := by
    obtain ⟨_, _, c, last, issued⟩ := descent.getLast?_eq
    obtain rfl : m.chain.root = c := Option.some.inj (m.chain.getLast?_certificates.symm.trans last)
    exact issued.rejection?_eq_none issued (drawn root List.mem_cons_self)
  exact Chain.forall_above_iff.mpr ⟨descent.isChain drawn, self⟩ i

end Building

theorem Chain.at_mem (c : Chain) (i : Fin 4) : c.at_ i ∈ c.certificates := List.get_mem _ _

theorem Chain.exists_at_of_mem {c : Chain} {a : Certificate} (h : a ∈ c.certificates) :
    ∃ i, c.at_ i = a := by
  obtain ⟨i, inside, same⟩ := List.getElem_of_mem h
  have bound : i < 4 := by rwa [c.length_eq] at inside
  exact ⟨⟨i, bound⟩, same⟩

section Families

variable {family : List Building}

/-- Where the names of the keys differ, so do the subjects of all certificates. -/
theorem nodup_subjects (distinct : (namesOf (familyKeys family)).Nodup) :
    ((family.flatMap (·.chain.certificates)).map (·.subject)).Nodup := by
  have same : (family.flatMap (·.chain.certificates)).map (·.subject) =
      family.flatMap fun m => (namesOf (keysDrawn m.before m.after)).reverse := by
    rw [List.map_flatMap]
    congr 1
    funext m
    exact m.map_subject
  have reordered : (family.flatMap fun m => (namesOf (keysDrawn m.before m.after)).reverse).Perm
      (namesOf (familyKeys family)) := by
    rw [familyKeys, namesOf, List.filterMap_flatMap]
    apply List.Perm.flatMap_left
    intro m _
    exact List.reverse_perm _
  rw [same]
  exact reordered.symm.nodup distinct

/-- Certificates of such chains with one subject are one certificate. -/
theorem eq_of_subject_eq (distinct : (namesOf (familyKeys family)).Nodup) {m m' : Building}
    {a a' : Certificate} (known : m ∈ family) (known' : m' ∈ family) (member : a ∈ m.chain.certificates)
    (member' : a' ∈ m'.chain.certificates) (same : a.subject = a'.subject) : a = a' :=
  List.inj_on_of_nodup_map (nodup_subjects distinct) (List.mem_flatMap.mpr ⟨m, known, member⟩)
    (List.mem_flatMap.mpr ⟨m', known', member'⟩) same

/-- Among the certificates of such chains, only the one above a certificate has issued it. -/
theorem rejection?_eq_none_iff_above
    (consistent : ∀ k, .ok k ∈ familyKeys family → Rsa.KeyPair.Consistent k)
    (distinct : (namesOf (familyKeys family)).Nodup) {m m' : Building} (known : m ∈ family)
    (known' : m' ∈ family) (i : Fin 4) {a : Certificate} (member : a ∈ m'.chain.certificates) :
    (m.chain.at_ i).rejection? a = none ↔ a = m.chain.at_ (above i) := by
  have accepted := m.rejection?_above
    (fun k drawn => consistent k (List.mem_flatMap.mpr ⟨m, known, drawn⟩)) i
  constructor
  · intro issued
    have named := (rejection?_eq_none_iff.mp issued).1
    have named' := (rejection?_eq_none_iff.mp accepted).1
    exact eq_of_subject_eq distinct known' known member (m.chain.at_mem _) (named.symm.trans named')
  · rintro rfl
    exact accepted

theorem at_injective (distinct : (namesOf (familyKeys family)).Nodup) {m : Building} (known : m ∈ family) :
    Function.Injective m.chain.at_ := by
  have once : (m.chain.certificates.map (·.subject)).Nodup := by
    apply List.Nodup.sublist _ (nodup_subjects distinct)
    apply List.Sublist.map
    exact List.sublist_flatten_of_mem (List.mem_map_of_mem known)
  intro i j same
  have places := List.nodup_iff_injective_get.mp (List.Nodup.of_map _ once) same
  exact Fin.ext (Fin.mk.inj places)

/-! ## Four certificates in order -/

/-- Four certificates that go up a chain: each is the one above the one before it, and the last of them is
    the root. -/
def InOrder (whole c : Chain) : Prop :=
  ∃ position : Fin 4 → Fin 4, (∀ i, c.at_ i = whole.at_ (position i)) ∧
    position (Fin.last 3) = Fin.last 3 ∧ ∀ i : Fin 3, position i.succ = above (position i.castSucc)

theorem inOrder_iff (consistent : ∀ k, .ok k ∈ familyKeys family → Rsa.KeyPair.Consistent k)
    (distinct : (namesOf (familyKeys family)).Nodup) {c : Chain}
    (members : ∀ a ∈ c.certificates, ∃ m ∈ family, a ∈ m.chain.certificates) :
    (∀ i, (c.at_ i).rejection? (c.at_ (above i)) = none) ↔ ∃ m ∈ family, InOrder m.chain c := by
  constructor
  · intro issued
    obtain ⟨m, known, member⟩ := members _ (c.at_mem 0)
    obtain ⟨start, first⟩ := Chain.exists_at_of_mem member
    -- from the position of the first certificate one step up for each of the others
    have climbs : ∀ i : Fin 4, c.at_ i = m.chain.at_ (above^[i] start) := by
      intro i
      induction i using Fin.induction with
      | zero => exact first.symm
      | succ i ih =>
          have link := issued i.castSucc
          obtain ⟨m', known', member'⟩ := members _ (c.at_mem (above i.castSucc))
          rw [ih, rejection?_eq_none_iff_above consistent distinct known known' _ member',
            above_castSucc] at link
          rw [link, Fin.val_succ, Function.iterate_succ_apply']
          rfl
    refine ⟨m, known, fun i => above^[i] start, climbs, ?_, fun i => ?_⟩
    · have top : ∀ p, above (above (above p)) = 3 := by decide
      exact top start
    · exact Function.iterate_succ_apply' above i start
  · intro ⟨m, known, position, climbs, top, steps⟩ i
    have next : c.at_ (above i) = m.chain.at_ (above (position i)) := by
      cases i using Fin.lastCases with
      | last => exact (climbs (Fin.last 3)).trans (by rw [top]; rfl)
      | cast i => rw [above_castSucc, climbs, steps]
    rw [climbs, next, rejection?_eq_none_iff_above consistent distinct known known _ (m.chain.at_mem _)]

/-- Certificates that were put into another order are in order only if they were not. -/
theorem forall_above_comm_iff (σ : Equiv.Perm (Fin 4)) : (∀ i, σ (above i) = above (σ i)) ↔ σ = 1 := by
  constructor
  · intro steps
    have root : ∀ p, p = above p → p = 3 := by decide
    have below : ∀ p q, p ≠ 3 → above p = above q → q ≠ 3 → p = q := by decide
    have third : σ 3 = 3 := root _ (steps 3)
    have apart {i : Fin 4} (other : i ≠ 3) : σ i ≠ 3 := by
      intro same
      rw [← third] at same
      exact other (σ.injective same)
    have second : σ 2 = 2 := below _ _ (apart (by decide)) ((steps 2).symm.trans third) (by decide)
    have first : σ 1 = 1 := below _ _ (apart (by decide)) ((steps 1).symm.trans second) (by decide)
    have zeroth : σ 0 = 0 := below _ _ (apart (by decide)) ((steps 0).symm.trans first) (by decide)
    apply Equiv.ext
    intro i
    match i with
    | 0 => exact zeroth
    | 1 => exact first
    | 2 => exact second
    | 3 => exact third
  · rintro rfl i
    rfl

/-- Of chains from consistent key pairs with different names, four certificates hold together exactly when
    all of them come from one chain, the last is its root, and each is followed by the one above it, where
    the root is above itself. In particular the certificates of a chain hold together in no other order than
    their own. -/
theorem coherent_iff_inOrder (consistent : ∀ k, .ok k ∈ familyKeys family → Rsa.KeyPair.Consistent k)
    (distinct : (namesOf (familyKeys family)).Nodup) :
    (∀ (c : Chain) (w : Workshop), (∀ a ∈ c.certificates, ∃ m ∈ family, a ∈ m.chain.certificates) →
      ∃ found w', (coherent c).perform w = (.ok found, w') ∧
        (found = true ↔ ∃ m ∈ family, InOrder m.chain c)) ∧
    ∀ m ∈ family, ∀ (σ : Equiv.Perm (Fin 4)) (c : Chain) (w : Workshop),
      (∀ i, c.at_ i = m.chain.at_ (σ i)) →
        ∃ found w', (coherent c).perform w = (.ok found, w') ∧ (found = true ↔ σ = 1) := by
  constructor
  · intro c w members
    obtain ⟨found, w', asked, accepts⟩ := exists_coherent c w
    exact ⟨found, w', asked, accepts.trans (inOrder_iff consistent distinct members)⟩
  · intro m known σ c w reordered
    obtain ⟨found, w', asked, accepts⟩ := exists_coherent c w
    refine ⟨found, w', asked, accepts.trans ?_⟩
    rw [← forall_above_comm_iff]
    apply forall_congr'
    intro i
    rw [reordered, reordered,
      rejection?_eq_none_iff_above consistent distinct known known _ (m.chain.at_mem _)]
    exact (at_injective distinct known).eq_iff

end Families

/-! ### Two chains -/

/-- The stocked workshop with other key pairs. -/
def workshopWith (keys : List Rsa.KeyPair) : Workshop := { stockedWorkshop with keys := keys.map .ok }

def firstKeys : List Rsa.KeyPair :=
  [Rsa.mersenneKey 65537 10880, Rsa.mersenneKey 13 9, Rsa.mersenneKey 19 7, Rsa.mersenneKey 23 9]

def secondKeys : List Rsa.KeyPair :=
  [Rsa.mersenneKey 29 11, Rsa.mersenneKey 37 20, Rsa.mersenneKey 43 16, Rsa.mersenneKey 47 24]

theorem consistent_firstKeys_secondKeys : ∀ k ∈ firstKeys ++ secondKeys, k.Consistent := by
  simp only [firstKeys, secondKeys, List.cons_append, List.nil_append, List.forall_mem_cons]
  refine ⟨?_, ?_, ?_, ?_, ?_, ?_, ?_, ?_, fun k member => by cases member⟩
  all_goals
    apply Rsa.consistent_mersenneKey
    decide +kernel

theorem distinct_firstKeys_secondKeys :
    ((firstKeys ++ secondKeys).map fun k => keyName k.publicKey).Nodup := by
  decide +kernel

/-- A chain is built from four of these key pairs. -/
theorem exists_building {keys : List Rsa.KeyPair} (four : keys.length = 4)
    (long : ∀ k ∈ keys, 94 ≤ Octets.byteLength k.modulus) :
    ∃ m : Building, m.before.keys = keys.map .ok := by
  have supplied : Supplied {} (workshopWith keys) 4 4 := {
    keys := ⟨keys, [], (List.append_nil _).symm, four, long⟩
    serials := supplied_stockedWorkshop.serials
    clock := supplied_stockedWorkshop.clock }
  have able : Able (workshopWith keys).maker defaultBuilder := able_defaultBuilder
  obtain ⟨chain, w', built⟩ :=
    supplied.exists_chain able (show Builder.checkPosition .none = .ok () from rfl)
  exact ⟨⟨defaultBuilder, .none, workshopWith keys, w', chain, built⟩, rfl⟩

/-- Two chains from eight key pairs: the root of one of them over itself holds together, the end of one
    under the rest of the other does not. -/
theorem coherent_iff_inOrder_two :
    ∃ first second : Building,
      (∀ k, .ok k ∈ familyKeys [first, second] → Rsa.KeyPair.Consistent k) ∧
      (namesOf (familyKeys [first, second])).Nodup ∧
      ∀ w, (∃ w', (coherent ⟨List.replicate 4 first.chain.root, rfl⟩).perform w = (.ok true, w')) ∧
        ∃ w', (coherent ⟨[first.chain.leaf, second.chain.at_ 1, second.chain.at_ 2, second.chain.root],
          rfl⟩).perform w = (.ok false, w') := by
  obtain ⟨first, fromFirst⟩ := exists_building (show firstKeys.length = 4 from rfl) (by decide +kernel)
  obtain ⟨second, fromSecond⟩ := exists_building (show secondKeys.length = 4 from rfl) (by decide +kernel)
  have taken : (familyKeys [first, second]).Sublist ((firstKeys ++ secondKeys).map .ok) := by
    simp only [familyKeys, List.flatMap_cons, List.flatMap_nil, List.append_nil, List.map_append,
      ← fromFirst, ← fromSecond]
    exact (List.take_sublist _ _).append (List.take_sublist _ _)
  have consistent : ∀ k, .ok k ∈ familyKeys [first, second] → Rsa.KeyPair.Consistent k := by
    intro k drawn
    obtain ⟨k', member, same⟩ := List.mem_map.mp (taken.subset drawn)
    obtain rfl := Except.ok.inj same
    exact consistent_firstKeys_secondKeys k' member
  have distinct : (namesOf (familyKeys [first, second])).Nodup := by
    apply List.Nodup.sublist (taken.filterMap _)
    rw [List.filterMap_map]
    have names := distinct_firstKeys_secondKeys
    rw [← List.filterMap_eq_map] at names
    exact names
  obtain ⟨verdict, -⟩ := coherent_iff_inOrder consistent distinct
  have knownFirst : first ∈ [first, second] := by simp
  have knownSecond : second ∈ [first, second] := by simp
  refine ⟨first, second, consistent, distinct, fun w => ⟨?_, ?_⟩⟩
  · obtain ⟨found, w', asked, accepts⟩ := verdict ⟨List.replicate 4 first.chain.root, rfl⟩ w
      (fun a member => ⟨first, knownFirst, List.eq_of_mem_replicate member ▸ first.chain.at_mem 3⟩)
    have stays : InOrder first.chain ⟨List.replicate 4 first.chain.root, rfl⟩ := by
      refine ⟨fun _ => 3, fun i => ?_, rfl, fun _ => rfl⟩
      match i with
      | 0 | 1 | 2 | 3 => rfl
    obtain rfl := accepts.mpr ⟨first, knownFirst, stays⟩
    exact ⟨w', asked⟩
  · obtain ⟨found, w', asked, accepts⟩ := verdict
      ⟨[first.chain.leaf, second.chain.at_ 1, second.chain.at_ 2, second.chain.root], rfl⟩ w (by
        simp only [List.forall_mem_cons]
        exact ⟨⟨first, knownFirst, first.chain.at_mem 0⟩, ⟨second, knownSecond, second.chain.at_mem 1⟩,
          ⟨second, knownSecond, second.chain.at_mem 2⟩, ⟨second, knownSecond, second.chain.at_mem 3⟩,
          fun _ member => by cases member⟩)
    cases found with
    | false => exact ⟨w', asked⟩
    | true =>
        obtain ⟨m, known, position, climbs, -, steps⟩ := accepts.mp rfl
        have link := m.rejection?_above
          (fun k drawn => consistent k (List.mem_flatMap.mpr ⟨m, known, drawn⟩)) (position 0)
        have upper : second.chain.at_ 1 = m.chain.at_ (above (position 0)) :=
          (climbs 1).trans (congrArg _ (steps 0))
        rw [← upper, ← climbs 0] at link
        have shared := (rejection?_eq_none_iff_above consistent distinct knownFirst knownSecond 0
          (second.chain.at_mem 1)).mp link
        have apart := (nodup_subjects distinct)
        simp only [List.flatMap_cons, List.flatMap_nil, List.append_nil, List.map_append,
          List.nodup_append] at apart
        exact absurd (congrArg Certificate.subject shared).symm
          (apart.2.2 _ (List.mem_map_of_mem (first.chain.at_mem 1)) _
            (List.mem_map_of_mem (second.chain.at_mem 1)))

end CertMint.Mint
