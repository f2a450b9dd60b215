import CertMint.Proofs.Descents
import CertMint.Proofs.KeyPairs

/-! # Success

When nothing is wrong with the settings and with the supplies, key pairs, certificates and chains are
made. None of the other outcomes is possible then.
-/

namespace CertMint.Mint

open X509

/-! ## Key pairs and certificates -/

theorem exists_generate {s : Settings} {w : Workshop} {k : Rsa.KeyPair}
    {rest : List (Except Fault Rsa.KeyPair)}
    (accepts : checkRequest w.maker s.keySize s.publicExponent = .ok ()) (keys : w.keys = .ok k :: rest) :
    ∃ w', (generate s).perform w = (.ok k, w') ∧ Spends w w' [.ok k] [] 0 := by
  rcases run : (generate s).perform w with ⟨r, w'⟩
  cases generating run with
  | refused _ refusal => cases accepts.symm.trans refusal
  | exhausted empty => cases keys.symm.trans empty
  | failed _ spends => cases keys.symm.trans spends.keys_eq
  | drawn k' spends =>
      have same := keys.symm.trans spends.keys_eq
      obtain rfl : k = k' := Except.ok.inj (List.cons.inj same).1
      exact ⟨w', rfl, spends⟩

/-- A reading of the clock from which certificates can state the valid and the expired window. -/
structure Roomy (s : Settings) (now : Moment) : Prop where
  universal : now.offset = some 0
  opening : ∀ valid, Calendar.dayOf ⟨1950, 1, 1⟩ * day ≤ now.clock + Window.opening s valid
  closing : ∀ valid, now.clock + Window.closing s valid < Calendar.lastDay * day

theorem Roomy.inYears {s : Settings} {now : Moment} (roomy : Roomy s now) (accepted : s.Accepted) :
    Moment.inYears now.clock = true := by
  have first := roomy.opening true
  have last := roomy.closing true
  obtain ⟨-, before⟩ := accepted.validNotBefore
  obtain ⟨-, after⟩ := accepted.validNotAfter
  rw [show (Calendar.dayOf ⟨1950, 1, 1⟩ : Nat) = 711857 from rfl] at first
  rw [show Calendar.lastDay = 3652059 from rfl] at last
  simp only [Window.opening, Window.closing, if_true, day, second] at first last
  exact Moment.inYears_iff.mpr ⟨by omega, by omega⟩

/-- Both ends of a window can be stated. -/
theorem Roomy.exists_window {s : Settings} {now : Moment} (roomy : Roomy s now) (accepted : s.Accepted)
    (valid : Bool) : ∃ window, Window.ofSettings s valid now = .ok window ∧
      Statable window.notBefore ∧ Statable window.notAfter := by
  have first := roomy.opening valid
  have last := roomy.closing valid
  have between := Window.opening_lt_closing accepted valid
  rcases Window.ofSettings_of_accepted accepted valid now with ⟨window, eq, follows⟩ | ⟨e, -, -, out⟩
  · refine ⟨window, eq, ?_, ?_⟩
    · rw [follows.notBefore_eq]
      exact ⟨roomy.universal, first, by simp only; omega⟩
    · rw [follows.notAfter_eq]
      exact ⟨roomy.universal, by simp only; omega, last⟩
  · have outside := out (roomy.inYears accepted)
    rw [show (Calendar.dayOf ⟨1950, 1, 1⟩ : Nat) = 711857 from rfl] at first
    rw [show Calendar.lastDay = 3652059 from rfl] at last
    simp only [Bool.eq_false_iff, ne_eq, Moment.inYears_iff, day, second] at outside first last
    omega

theorem plain?_int {i : Int} (h : i.natAbs < 10 ^ 100) : (Datum.int i).plain? = some (toString i) := by
  have short (digits : Nat) (more : 100 ≤ digits) : i.natAbs < 10 ^ digits :=
    Nat.lt_of_lt_of_le h (Nat.pow_le_pow_right (by decide) more)
  rw [plain?_int_eq, Integer.text?, Nat.pow_eq, if_pos (short Integer.maxDigits (by decide))]

/-- A position that is accepted can be written. -/
theorem exists_plain?_of_checkPosition {d : Datum} (accepted : Builder.checkPosition d = .ok ()) :
    ∃ text, d.plain? = some text := by
  cases d with
  | none | bool | real => exact ⟨_, rfl⟩
  | int i =>
      have zero : (Datum.int i).compareInt? 0 = some (some (compare i 0)) := rfl
      have length : (Datum.int i).compareInt? chainLength = some (some (compare i chainLength)) := rfl
      simp only [Builder.checkPosition, zero, length, pure_bind] at accepted
      split at accepted
      · next inside =>
          simp only [Option.some.injEq, Option.getD_some, Bool.and_eq_true, Bool.or_eq_true, decide_eq_true_eq,
            Int.compare_eq_gt, Int.compare_eq_lt, compare_eq_iff_eq] at inside
          have low : 0 ≤ i := by omega
          have high : i < 4 := inside.2
          exact ⟨_, plain?_int (by omega)⟩
      · cases accepted
  | text | octets | list | tuple | record | moment => cases accepted

theorem Built.exists_plain? {digest : Digest.Algorithm} {spec : Spec} {issuer subject : Rsa.KeyPair}
    {c : Certificate} (h : Built digest spec issuer subject c) :
    ∃ text, spec.serial.plain? = some text := by
  obtain ⟨n, checked, _⟩ := h.serial
  unfold checkSerial at checked
  split at checked
  · cases checked
  · next i isInt =>
      split at checked
      · cases checked
      · next positive =>
          split at checked
          · cases checked
          · next short =>
              -- a serial number that is signed has too few digits not to be written
              have below : i.toNat < 10 ^ 100 := calc
                i.toNat < 2 ^ Octets.bitLength i.toNat := Octets.lt_two_pow_bitLength _
                _ ≤ 2 ^ 160 := Nat.pow_le_pow_right (by decide) (by omega)
                _ < 10 ^ 100 := by decide
              cases serial : spec.serial with
              | int i' =>
                  rw [serial] at isInt
                  obtain rfl : i' = i := Option.some.inj isInt
                  exact ⟨_, plain?_int (by omega)⟩
              | bool b => exact ⟨_, rfl⟩
              | _ =>
                  rw [serial] at isInt
                  cases isInt

/-- What is noted of a certificate that is built can be written. -/
theorem exists_plain?_of_build {digest : Digest.Algorithm} {issuer subject : Rsa.KeyPair} {distance : Nat}
    {serial : Datum} {validity : Window} {c : Certificate}
    (builds : build digest (specOf issuer subject distance serial validity) issuer subject = .ok c) :
    (∃ text, serial.plain? = some text) ∧ ∃ text, (Datum.int distance).plain? = some text := by
  have built := built_of_build builds
  have bound := built.distance_le
  exact ⟨built.exists_plain?, _, plain?_int (by omega)⟩

theorem exists_issue {f : Forge} {issuer subject : Rsa.KeyPair} (valid : Bool) {distance : Nat}
    {w : Workshop} {i : Int} {rest : List (Except Fault Datum)} {now : Moment}
    (accepted : f.settings.Accepted) (member : f.digest ∈ Rsa.sha2Algorithms)
    (long : 94 ≤ Octets.byteLength issuer.modulus) (low : distance ≤ 2 ^ 64)
    (serials : w.serials = .ok (.int i) :: rest) (positive : 0 < i) (small : i < 2 ^ 159)
    (shows : w.clock w.readings = some now) (roomy : Roomy f.settings now) :
    ∃ c w', (f.issue (some issuer) (some subject) (.bool valid) (.int distance)).perform w = (.ok c, w') ∧
      Spends w w' [] [.ok (.int i)] 1 := by
  obtain ⟨window, eq, first, last⟩ := roomy.exists_window accepted valid
  obtain ⟨c, builds⟩ : ∃ c, build f.digest (specOf issuer subject distance (.int i) window) issuer
      subject = .ok c := by
    have extensions := extensionsFor_distance distance
    rw [if_pos low] at extensions
    exact exists_build member long (exists_checkSerial rfl positive small)
      (exists_checkBound "before" first) (exists_checkBound "after" last)
      ⟨_, _, checkPathLength_specOf .., extensions⟩
  rcases run : (f.issue (some issuer) (some subject) (.bool valid) (.int distance)).perform w
    with ⟨r, w'⟩
  cases issuing run with
  | undescribed e describing =>
      cases describing with
      | exhausted empty => cases serials.symm.trans empty
      | undrawn _ spends => cases serials.symm.trans spends.serials_eq
      | timeless _ _ shows' => cases shows.symm.trans shows'
      | windowless serial now' _ spends shows' fails =>
          cases shows.symm.trans shows'
          cases eq.symm.trans fails
  | unsigned serial now' validity e spends shows' window' fails =>
      cases shows.symm.trans shows'
      cases eq.symm.trans window'
      cases serials.symm.trans spends.serials_eq
      cases (sign_eq_ok.mpr builds).symm.trans fails
  | unwritable serial now' validity c spends shows' window' builds' unwritable =>
      obtain ⟨⟨_, writes⟩, _, writes'⟩ := exists_plain?_of_build builds'
      rcases unwritable with tooLong | tooLong
      · cases tooLong.symm.trans writes
      · cases tooLong.symm.trans writes'
  | issued serial now' validity c spends shows' window' builds' =>
      have same := serials.symm.trans spends.serials_eq
      obtain rfl : Datum.int i = serial := Except.ok.inj (List.cons.inj same).1
      exact ⟨c, w', rfl, spends⟩

/-! ## Chains -/

/-- A builder whose settings nothing is wrong with, for what makes the key pairs. -/
structure Able (maker : KeyMaker) (b : Builder) : Prop where
  accepts : checkRequest maker b.settings.keySize b.settings.publicExponent = .ok ()
  accepted : b.forge.settings.Accepted
  digest_mem : b.forge.digest ∈ Rsa.sha2Algorithms

/-- Work does not change what makes the key pairs. -/
theorem Able.after {b : Builder} {w w' : Workshop} {ks : List (Except Fault Rsa.KeyPair)}
    {ns : List (Except Fault Datum)} {n : Nat} (able : Able w.maker b) (spends : Spends w w' ks ns n) :
    Able w'.maker b := by
  rw [spends.maker_eq]
  exact able

/-- A workshop with so many key pairs, and serial numbers and readings for so many certificates. -/
structure Supplied (s : Settings) (w : Workshop) (keys certificates : Nat) : Prop where
  keys : ∃ (ks : List Rsa.KeyPair) (rest : _), w.keys = ks.map .ok ++ rest ∧ ks.length = keys ∧
    ∀ k ∈ ks, 94 ≤ Octets.byteLength k.modulus
  serials : ∃ (ns : List Int) (rest : _), w.serials = ns.map (fun n => .ok (.int n)) ++ rest ∧
    ns.length = certificates ∧ ∀ n ∈ ns, 0 < n ∧ n < 2 ^ 159
  clock : ∀ n < certificates, ∃ now, w.clock (w.readings + n) = some now ∧ Roomy s now

namespace Supplied

variable {b : Builder} {w w' : Workshop} {keys certificates : Nat}

/-- A key pair is made from a supply of them, and leaves the others. -/
theorem exists_generate {s : Settings} (supplied : Supplied s w (keys + 1) certificates)
    (able : Able w.maker b) :
    ∃ k w', (generate b.settings).perform w = (.ok k, w') ∧ 94 ≤ Octets.byteLength k.modulus ∧
      Able w'.maker b ∧ Supplied s w' keys certificates := by
  obtain ⟨ks, rest, eq, length, long⟩ := supplied.keys
  match ks, length with
  | k :: ks, length =>
      obtain ⟨w', run, spends⟩ := Mint.exists_generate able.accepts eq
      have left : w'.keys = ks.map .ok ++ rest :=
        (List.cons.inj (spends.keys_eq.symm.trans eq)).2
      exact ⟨k, w', run, long k List.mem_cons_self, able.after spends, {
        keys := ⟨ks, rest, left, Nat.succ.inj length, fun k' member =>
          long k' (List.mem_cons_of_mem _ member)⟩
        serials := by rw [← show w.serials = w'.serials from spends.serials_eq]; exact supplied.serials
        clock := by
          rw [spends.clock_eq, spends.readings_eq]
          exact supplied.clock }⟩

/-- A certificate is issued from a supply for several, and leaves enough for the others. -/
theorem exists_issue (supplied : Supplied b.forge.settings w keys (certificates + 1)) (able : Able w.maker b)
    {issuer subject : Rsa.KeyPair} (long : 94 ≤ Octets.byteLength issuer.modulus) (valid : Bool)
    {distance : Nat} (low : distance ≤ 2 ^ 64) :
    ∃ c w', (b.forge.issue (some issuer) (some subject) (.bool valid) (.int distance)).perform w =
      (.ok c, w') ∧ Able w'.maker b ∧ Supplied b.forge.settings w' keys certificates := by
  obtain ⟨ns, rest, eq, length, inRange⟩ := supplied.serials
  obtain ⟨now, shows, roomy⟩ := supplied.clock 0 (Nat.succ_pos certificates)
  match ns, length with
  | n :: ns, length =>
      obtain ⟨positive, small⟩ := inRange n List.mem_cons_self
      obtain ⟨c, w', run, spends⟩ := Mint.exists_issue valid able.accepted able.digest_mem long low eq
        positive small shows roomy
      refine ⟨c, w', run, able.after spends, {
        keys := by rw [← show w.keys = w'.keys from spends.keys_eq]; exact supplied.keys
        serials := ⟨ns, rest, (List.cons.inj (spends.serials_eq.symm.trans eq)).2, Nat.succ.inj length,
          fun n' member => inRange n' (List.mem_cons_of_mem _ member)⟩
        clock := fun m below => ?_ }⟩
      rw [spends.clock_eq, spends.readings_eq, Nat.add_assoc, Nat.add_comm 1]
      exact supplied.clock (m + 1) (Nat.succ_lt_succ below)

/-- The certificates from a position down are issued from a supply for all of them. -/
theorem exists_certificatesFrom {position : Nat}
    (supplied : Supplied b.forge.settings w position (position + 1)) (able : Able w.maker b) (invalid : Datum)
    {issuer subject : Rsa.KeyPair} (issuerLong : 94 ≤ Octets.byteLength issuer.modulus)
    (subjectLong : 94 ≤ Octets.byteLength subject.modulus) (low : position ≤ 2 ^ 64) :
    ∃ cs w', (b.certificatesFrom invalid issuer subject position).perform w = (.ok cs, w') := by
  induction position generalizing issuer subject w with
  | zero =>
      obtain ⟨c, w', run, _⟩ := supplied.exists_issue able issuerLong (!Datum.same (.int 0) invalid) low
      refine ⟨[c], w', ?_⟩
      rw [Builder.certificatesFrom, Work.perform_bind_eq_ok]
      exact ⟨c, w', run, rfl⟩
  | succ position ih =>
      obtain ⟨c, w₁, issue, able, left⟩ := supplied.exists_issue able issuerLong
        (!Datum.same (.int (position + 1)) invalid) low
      obtain ⟨next, w₂, generation, nextLong, able, left⟩ := left.exists_generate able
      obtain ⟨cs, w₃, below⟩ := ih left able subjectLong nextLong (Nat.le_of_succ_le low)
      refine ⟨cs ++ [c], w₃, ?_⟩
      simp only [Builder.certificatesFrom, Work.perform_bind_eq_ok]
      exact ⟨c, w₁, issue, next, w₂, generation, cs, w₃, below, rfl⟩

theorem of_spends_nothing {s : Settings} (supplied : Supplied s w keys certificates)
    (spends : Spends w w' [] [] 0) : Supplied s w' keys certificates where
  keys := by rw [← show w.keys = w'.keys from spends.keys_eq]; exact supplied.keys
  serials := by rw [← show w.serials = w'.serials from spends.serials_eq]; exact supplied.serials
  clock := by
    rw [spends.clock_eq, spends.readings_eq]
    exact supplied.clock

/-- A chain is built from a supply for four certificates, whichever of them is to be expired. -/
theorem exists_chain (supplied : Supplied b.forge.settings w 4 4) (able : Able w.maker b) {invalid : Datum}
    (position : Builder.checkPosition invalid = .ok ()) :
    ∃ chain w', (b.chain invalid).perform w = (.ok chain, w') := by
  rcases run : (measuredIf b.measures "build_chain" [("invalid_position", invalid)] (do
    let rootPair ← generate b.settings
    b.certificatesFrom invalid rootPair rootPair (chainLength - 1))).perform w with ⟨r, w₁⟩
  obtain ⟨w₂, w₃, work, before, _⟩ := exists_of_measuredIf run
  obtain ⟨root, w₄, generation, long, able, left⟩ :=
    (supplied.of_spends_nothing before.toSpends).exists_generate (able.after before.toSpends)
  obtain ⟨cs, w₅, loop⟩ := left.exists_certificatesFrom able invalid long long (by decide)
  rw [Work.perform_bind, generation] at work
  obtain ⟨rfl, rfl⟩ := Prod.mk.inj (work.symm.trans loop)
  obtain ⟨shown, text⟩ := exists_plain?_of_checkPosition position
  have length : cs.length = chainLength := by
    obtain ⟨_, _, _, descent⟩ := descent_of_certificatesFrom loop
    exact descent.length_eq
  obtain ⟨chain, w', finished, _⟩ := exists_chain_of_length text length w₁
  rw [Builder.chain, Work.perform_bind, Work.perform_ofExcept, position]
  dsimp only
  rw [Work.perform_bind, run]
  exact ⟨chain, w', finished⟩

end Supplied

/-! ## A builder and a workshop -/

/-- The builder of the default settings, which measures. -/
def defaultBuilder : Builder := ⟨{}, ⟨{}, .sha256⟩, true⟩

/-- A workshop with one key pair four times and with four serial numbers, in the middle of 2024. Its
    clock shows a second more each time. -/
def stockedWorkshop : Workshop where
  keys := List.replicate 4 (.ok Rsa.mersennePair)
  serials := [.ok (.int 1), .ok (.int 2), .ok (.int 3), .ok (.int 4)]
  clock n := some ⟨Calendar.dayOf ⟨2024, 6, 15⟩ * day + n * second, some 0⟩
  seconds := []
  stamp := ⟨Calendar.dayOf ⟨2024, 6, 15⟩ * day, some 0⟩
  engine := .ok ⟨"", fun _ => true⟩
  registered := true

theorem able_defaultBuilder : Able stockedWorkshop.maker defaultBuilder where
  accepts := rfl
  accepted := Settings.accepted_of_flaw? rfl
  digest_mem := by decide

theorem supplied_stockedWorkshop : Supplied {} stockedWorkshop 4 4 where
  keys := ⟨List.replicate 4 Rsa.mersennePair, [], rfl, rfl, fun k member => by
    rw [List.eq_of_mem_replicate member]
    exact Rsa.byteLength_mersennePair⟩
  serials := ⟨[1, 2, 3, 4], [], rfl, rfl, by decide⟩
  clock n below := by
    have start : (Calendar.dayOf ⟨2024, 6, 15⟩ : Nat) = 739051 := rfl
    have first : (Calendar.dayOf ⟨1950, 1, 1⟩ : Nat) = 711857 := rfl
    have last : Calendar.lastDay = 3652059 := rfl
    have opening : ∀ valid, -(40 * day) ≤ Window.opening {} valid := by decide
    have closing : ∀ valid, Window.closing {} valid ≤ 99 * day := by decide
    refine ⟨_, rfl, rfl, fun valid => ?_, fun valid => ?_⟩
    · have := opening valid
      simp only [start, first, day, second] at this ⊢
      omega
    · have := closing valid
      simp only [stockedWorkshop, start, last, day, second] at this ⊢
      omega

end CertMint.Mint
