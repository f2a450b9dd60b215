import CertMint.Mint.Fixtures
import CertMint.Proofs.Turns

/-! # Enough for a fixture

What a workshop has to have so that a facade of accepted settings makes chains and single certificates,
of every kind and with every position.
-/

namespace CertMint.Mint

open X509

variable {α : Type} {s : Settings} {w : Workshop} {keys certificates : Nat}

/-- A workshop with a registered engine, with so many consistent key pairs of at least 1024 bits for requests
    of the size of the settings, and with serial numbers and readings of the clock for so many certificates.
    From each reading the windows of the settings lie in 1950 to 9999. -/
structure Provides (s : Settings) (w : Workshop) (keys certificates : Nat) : Prop where
  registered : w.registered = true
  engine : ∃ engine, w.engine = .ok engine ∧ ∀ a ∈ Rsa.sha2Algorithms, engine.supports a = true
  keys : ∃ (ks : List Rsa.KeyPair) (rest : _), w.keys = ks.map .ok ++ rest ∧ ks.length = keys ∧
    ∀ k ∈ ks, k.Consistent ∧ 2 ^ 1023 ≤ k.modulus
  /-- What makes the key pairs takes the size. -/
  size : ∀ size, s.keySize = .int size → size ≤ w.maker.largest.val
  serials : ∃ (ns : List Int) (rest : _), w.serials = ns.map (fun n => .ok (.int n)) ++ rest ∧
    ns.length = certificates ∧ ∀ n ∈ ns, 1 ≤ n ∧ n ≤ 2 ^ 159 - 1
  clock : ∀ n < certificates, ∃ now, w.clock (w.readings + n) = some now ∧ now.offset = some 0 ∧
    Calendar.dayOf ⟨1950, 1, 1⟩ * day ≤
      now.clock - max (s.days .validNotBefore) (s.days .expiredNotBefore) * day ∧
    now.clock + s.days .validNotAfter * day < Calendar.lastDay * day

namespace Provides

theorem roomy {now : Moment} (accepted : s.Accepted) (universal : now.offset = some 0)
    (first : Calendar.dayOf ⟨1950, 1, 1⟩ * day ≤
      now.clock - max (s.days .validNotBefore) (s.days .expiredNotBefore) * day)
    (last : now.clock + s.days .validNotAfter * day < Calendar.lastDay * day) : Roomy s now := by
  obtain ⟨-, positive⟩ := accepted.expiredNotAfter
  obtain ⟨-, after⟩ := accepted.validNotAfter
  rw [show (Calendar.dayOf ⟨1950, 1, 1⟩ : Nat) = 711857 from rfl] at first
  rw [show Calendar.lastDay = 3652059 from rfl] at last
  refine ⟨universal, fun valid => ?_, fun valid => ?_⟩
  all_goals
    cases valid
    all_goals
      simp only [Window.opening, Window.closing, Bool.false_eq_true, if_true, if_false, day, second,
        show (Calendar.dayOf ⟨1950, 1, 1⟩ : Nat) = 711857 from rfl,
        show Calendar.lastDay = 3652059 from rfl] at first last ⊢
      omega

theorem supplied (provides : Provides s w keys certificates) (accepted : s.Accepted) :
    Supplied s w keys certificates where
  keys := by
    obtain ⟨ks, rest, eq, length, good⟩ := provides.keys
    refine ⟨ks, rest, eq, length, fun k member => ?_⟩
    by_contra short
    have few : 256 ^ Octets.byteLength k.modulus ≤ 2 ^ 1023 :=
      calc 256 ^ Octets.byteLength k.modulus
        _ ≤ 256 ^ 93 := Nat.pow_le_pow_right (by decide) (by omega)
        _ = (2 ^ 8) ^ 93 := rfl
        _ = 2 ^ (8 * 93) := by rw [pow_mul]
        _ ≤ 2 ^ 1023 := pow_le_pow_right₀ (by decide) (by decide)
    exact Nat.not_le.mpr (Octets.lt_pow_byteLength k.modulus) (few.trans (good k member).2)
  serials := by
    obtain ⟨ns, rest, eq, length, inRange⟩ := provides.serials
    refine ⟨ns, rest, eq, length, fun n member => ?_⟩
    obtain ⟨positive, small⟩ := inRange n member
    omega
  clock n below := by
    obtain ⟨now, shows, universal, first, last⟩ := provides.clock n below
    exact ⟨now, shows, roomy accepted universal first last⟩

/-- What is enough for several is enough for fewer. -/
theorem fewer {keys' certificates' : Nat} (provides : Provides s w keys certificates)
    (fewKeys : keys' ≤ keys) (few : certificates' ≤ certificates) : Provides s w keys' certificates' where
  registered := provides.registered
  engine := provides.engine
  keys := by
    obtain ⟨ks, rest, eq, length, good⟩ := provides.keys
    refine ⟨ks.take keys', (ks.drop keys').map .ok ++ rest, ?_, ?_, fun k member => ?_⟩
    · rw [eq, ← List.append_assoc, ← List.map_append, List.take_append_drop]
    · rw [List.length_take, length, Nat.min_eq_left fewKeys]
    · exact good k (List.mem_of_mem_take member)
  size := provides.size
  serials := by
    obtain ⟨ns, rest, eq, length, inRange⟩ := provides.serials
    refine ⟨ns.take certificates', (ns.drop certificates').map (fun n => .ok (.int n)) ++ rest, ?_, ?_,
      fun n member => ?_⟩
    · rw [eq, ← List.append_assoc, ← List.map_append, List.take_append_drop]
    · rw [List.length_take, length, Nat.min_eq_left few]
    · exact inRange n (List.mem_of_mem_take member)
  clock n below := provides.clock n (below.trans_le few)

end Provides

/-! ## Wiring -/

/-- The names of hashes in accepted settings are those of SHA-2 algorithms. -/
theorem exists_algorithmOf {name : String} (member : name ∈ Settings.signatureHashes) :
    ∃ digest ∈ Rsa.sha2Algorithms, digest.key = name ∧ algorithmOf name = .ok digest := by
  simp only [Settings.signatureHashes, List.mem_cons, List.not_mem_nil, or_false] at member
  rcases member with rfl | rfl | rfl | rfl
  · exact ⟨.sha224, by decide, rfl, rfl⟩
  · exact ⟨.sha256, by decide, rfl, rfl⟩
  · exact ⟨.sha384, by decide, rfl, rfl⟩
  · exact ⟨.sha512, by decide, rfl, rfl⟩

theorem exists_resolve {name : String} {e : Engine} (member : name ∈ Settings.signatureHashes)
    (there : w.engine = .ok e) (supports : ∀ a ∈ Rsa.sha2Algorithms, e.supports a = true) :
    ∃ digest ∈ Rsa.sha2Algorithms, digest.key = name ∧
      (resolve (.text name)).perform w = (.ok digest, w) := by
  obtain ⟨digest, sha2, named, algorithm⟩ := exists_algorithmOf member
  refine ⟨digest, sha2, named, ?_⟩
  simp only [resolve, Work.perform_bind, Work.perform_ofExcept, algorithmName, algorithm,
    Work.perform_get, there, supports digest sha2, if_true, Work.perform_pure]

/-- A facade of accepted settings is wired with a registered engine that has the SHA-2 algorithms. Nothing
    in the workshop changes. -/
theorem exists_perform_wire {e : Engine} (accepted : s.Accepted) (measures : Bool)
    (registered : w.registered = true) (there : w.engine = .ok e)
    (supports : ∀ a ∈ Rsa.sha2Algorithms, e.supports a = true) :
    ∃ digest ∈ Rsa.sha2Algorithms, s.signatureHash = .text digest.key ∧
      (Facade.wire s measures).perform w = (.ok ⟨s, digest, measures⟩, w) := by
  obtain ⟨name, member, eq⟩ := accepted.signatureHash
  obtain ⟨digest, sha2, named, resolved⟩ := exists_resolve member there supports
  have done : register.perform w = (.ok (), w) := by
    simp only [register, Work.perform_bind, Work.perform_get, registered, if_true, Work.perform_pure]
  refine ⟨digest, sha2, by rw [eq, named], ?_⟩
  simp only [Facade.wire, Builder.make, Forge.make, Work.perform_bind, done, eq, resolved,
    Work.perform_pure]

/-! ## Fixtures -/

variable {b : Builder}

/-- With accepted settings a request is refused for nothing but the kind of the exponent, and a size that is
    too large for what makes the key pairs. -/
theorem checkRequest_of_accepted (accepted : s.Accepted) (maker : KeyMaker) {size : Int}
    (isSize : s.keySize = .int size) :
    checkRequest maker s.keySize s.publicExponent = match s.publicExponent with
      | .int _ => if maker.largest.val < size then .error (maker.refusal size) else .ok ()
      | d => .error (.of .type ("'" ++ d.kindName ++ "' object cannot be interpreted as an integer")) := by
  obtain ⟨size', isSize', enough⟩ := accepted.keySize
  obtain rfl := Datum.int.inj (isSize.symm.trans isSize')
  obtain ⟨i, member, same⟩ := accepted.publicExponent
  have known : (Settings.publicExponents.any fun e => s.publicExponent.same (.int e)) = true :=
    List.any_eq_true.mpr ⟨i, member, same⟩
  have large : order "<" (.int size) 1024 = .ok (some (compare size 1024)) := rfl
  have above : ¬ some (compare size 1024) = some .lt := by
    rw [Option.some.injEq, Int.compare_eq_lt]
    exact Int.not_lt.mpr enough
  simp only [checkRequest, known, isSize, large, ok_bind, if_neg above]
  cases s.publicExponent <;> rfl

theorem accepts_of_int {exponent : Int} (accepted : s.Accepted) {maker : KeyMaker}
    (isInt : s.publicExponent = .int exponent)
    (fits : ∀ size, s.keySize = .int size → size ≤ maker.largest.val) :
    checkRequest maker s.keySize s.publicExponent = .ok () := by
  obtain ⟨size, isSize, -⟩ := accepted.keySize
  rw [checkRequest_of_accepted accepted maker isSize, isInt]
  exact if_neg (Int.not_lt.mpr (fits size isSize))

/-- The work of which a single certificate is made. -/
def singleWork (b : Builder) (valid selfSigned : Bool) : Work Certificate := do
  let subject ← generate b.settings
  let issuer ← if selfSigned then pure subject else generate b.settings
  b.forge.issue (some issuer) (some subject) (.bool valid) (.int 0)

/-- A single certificate is what that work makes, measured; what follows only notes it. -/
theorem exists_single_eq (b : Builder) (valid selfSigned : Bool) :
    ∃ finish : Certificate → Work Certificate, b.single (.bool valid) (.bool selfSigned) =
      (measuredIf b.measures "build_single_certificate" [("is_valid", .bool valid),
        ("is_self_signed", .bool selfSigned)] (singleWork b valid selfSigned) >>= finish) ∧
      ∀ c w, ∃ w', (finish c).perform w = (.ok c, w') :=
  ⟨_, rfl, fun _ _ => ⟨_, rfl⟩⟩

theorem Supplied.exists_singleWork (supplied : Supplied b.forge.settings w 2 1) (able : Able w.maker b)
    (valid selfSigned : Bool) :
    ∃ c w', (singleWork b valid selfSigned).perform w = (.ok c, w') := by
  obtain ⟨subject, w₁, generation, long, able, left⟩ := supplied.exists_generate able
  cases selfSigned with
  | true =>
      obtain ⟨c, w₂, issue, _⟩ := left.exists_issue able long valid (show 0 ≤ 2 ^ 64 by decide)
      refine ⟨c, w₂, ?_⟩
      simp only [singleWork, Work.perform_bind, generation, if_true, Work.perform_pure]
      exact issue
  | false =>
      obtain ⟨issuer, w₂, generation', long', able, left⟩ := left.exists_generate able
      obtain ⟨c, w₃, issue, _⟩ := left.exists_issue able long' valid (show 0 ≤ 2 ^ 64 by decide)
      refine ⟨c, w₃, ?_⟩
      simp only [singleWork, Work.perform_bind, generation, Bool.false_eq_true, if_false, generation']
      exact issue

/-- A single certificate is made from a supply of two key pairs, one of which may be left over. -/
theorem Supplied.exists_single (supplied : Supplied b.forge.settings w 2 1) (able : Able w.maker b)
    (valid selfSigned : Bool) :
    ∃ c w', (b.single (.bool valid) (.bool selfSigned)).perform w = (.ok c, w') := by
  obtain ⟨finish, single, finishes⟩ := exists_single_eq b valid selfSigned
  rcases run : (measuredIf b.measures "build_single_certificate" [("is_valid", .bool valid),
    ("is_self_signed", .bool selfSigned)] (singleWork b valid selfSigned)).perform w with ⟨r, w₁⟩
  obtain ⟨w₂, w₃, work, before, _⟩ := exists_of_measuredIf run
  obtain ⟨c, w₄, made⟩ := (supplied.of_spends_nothing before.toSpends).exists_singleWork
    (able.after before.toSpends) valid selfSigned
  obtain ⟨rfl, rfl⟩ := Prod.mk.inj (work.symm.trans made)
  obtain ⟨w', finished⟩ := finishes c w₁
  refine ⟨c, w', ?_⟩
  rw [single, Work.perform_bind, run]
  exact finished

theorem Supplied.exists_fixture (chains : Supplied b.forge.settings w 4 4)
    (singles : Supplied b.forge.settings w 2 1) (able : Able w.maker b) (kind : Scenario) :
    ∃ fixture w', (b.fixture kind).perform w = (.ok fixture, w') := by
  have mapped {β : Type} {work : Work β} {g : β → Fixture}
      (made : ∃ a w', work.perform w = (.ok a, w')) :
      ∃ fixture w', (g <$> work).perform w = (.ok fixture, w') := by
    obtain ⟨a, w', run⟩ := made
    refine ⟨g a, w', ?_⟩
    rw [map_eq_pure_bind, Work.perform_bind, run]
    rfl
  cases kind with
  | validChain => exact mapped (chains.exists_chain able (show Builder.checkPosition .none = .ok () from rfl))
  | expiredIntermediateChain =>
      exact mapped (chains.exists_chain able (show Builder.checkPosition (.int 1) = .ok () from rfl))
  | expiredRootChain =>
      exact mapped (chains.exists_chain able (show Builder.checkPosition (.int 3) = .ok () from rfl))
  | valid | expired | selfSigned | expiredSelfSigned => exact mapped (singles.exists_single able _ _)

/-! ## Facades -/

/-- A facade is wired, and nothing is wrong with its settings for what makes the key pairs. -/
theorem Provides.exists_wire {exponent : Int} (provides : Provides s w keys certificates)
    (accepted : s.Accepted) (isInt : s.publicExponent = .int exponent) (measures : Bool) :
    ∃ digest, (Facade.wire s measures).perform w = (.ok ⟨s, digest, measures⟩, w) ∧
      Able w.maker ⟨s, ⟨s, digest⟩, measures⟩ := by
  obtain ⟨engine, there, supports⟩ := provides.engine
  obtain ⟨digest, sha2, -, wired⟩ :=
    exists_perform_wire accepted measures provides.registered there supports
  exact ⟨digest, wired, accepts_of_int accepted isInt provides.size, accepted, sha2⟩

/-- A facade is wired, and makes a fixture of any kind. -/
theorem Provides.exists_generate {exponent : Int} (provides : Provides s w 4 4) (accepted : s.Accepted)
    (isInt : s.publicExponent = .int exponent) (measures : Bool) (kind : Scenario) :
    ∃ f fixture w', (Facade.wire s measures).perform w = (.ok f, w) ∧
      (f.generate kind).perform w = (.ok fixture, w') := by
  obtain ⟨digest, wired, able⟩ := provides.exists_wire accepted isInt measures
  have less := provides.fewer (show 2 ≤ 4 by decide) (show 1 ≤ 4 by decide)
  obtain ⟨fixture, w', made⟩ :=
    (provides.supplied accepted).exists_fixture (less.supplied accepted) able kind
  exact ⟨_, fixture, w', wired, made⟩

theorem provides_stockedWorkshop : Provides {} stockedWorkshop 4 4 where
  registered := rfl
  engine := ⟨_, rfl, fun _ _ => rfl⟩
  keys := by
    refine ⟨List.replicate 4 Rsa.mersennePair, [], rfl, rfl, fun k member => ?_⟩
    rw [List.eq_of_mem_replicate member]
    exact ⟨Rsa.consistent_mersennePair, by decide +kernel⟩
  size size isSize := by
    cases isSize
    decide
  serials := ⟨[1, 2, 3, 4], [], rfl, rfl, by decide⟩
  clock n below := by
    have start : (Calendar.dayOf ⟨2024, 6, 15⟩ : Nat) = 739051 := rfl
    have first : (Calendar.dayOf ⟨1950, 1, 1⟩ : Nat) = 711857 := rfl
    have last : Calendar.lastDay = 3652059 := rfl
    have back : max (({} : Settings).days .validNotBefore) (({} : Settings).days .expiredNotBefore) = 40 := rfl
    have ahead : ({} : Settings).days .validNotAfter = 99 := rfl
    refine ⟨_, rfl, rfl, ?_, ?_⟩
    · simp only [stockedWorkshop, start, first, back, day, second]
      omega
    · simp only [stockedWorkshop, start, last, ahead, day, second]
      omega

end CertMint.Mint
