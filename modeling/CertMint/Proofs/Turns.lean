import CertMint.Proofs.Currency
import CertMint.Proofs.Obstacles

/-! # Turns

A chain is minted in turns, one for each certificate, the root's first. Each certificate is signed by the
subject of the turn before. The first turn that something stops ends the chain; what that is depends on
the entries of the supplies that belong to the turn, and on nothing that the turns before it did.
-/

namespace CertMint.Mint

open X509

/-! ## The turns of a chain -/

/-- What a turn of a chain comes to. The root, whose turn is the first, issues itself. -/
def turn (b : Builder) (invalid : Datum) (w : Workshop) (j : Nat) : Except Obstacle Certificate :=
  match keyAt b.settings w (j - 1), keyAt b.settings w j with
  | .error o, _ | _, .error o => .error o
  | .ok issuer, .ok subject =>
    let distance := chainLength - 1 - j
    certificateAt b.forge w j issuer subject (!Datum.same (.int distance) invalid) distance

section Turns

variable {b : Builder} {invalid : Datum} {w v v' : Workshop}

/-- The certificates were issued in the first turns of a chain, in this order. -/
def Minted (b : Builder) (invalid : Datum) (w : Workshop) (turns : Nat) (issues : List Issue) : Prop :=
  issues.map (.ok ·.certificate) = (List.range turns).map (turn b invalid w)

theorem Minted.length_eq {turns : Nat} {issues : List Issue} (h : Minted b invalid w turns issues) :
    issues.length = turns := by
  have lengths := congrArg List.length h
  rwa [List.length_map, List.length_map, List.length_range] at lengths

theorem Minted.next {turns : Nat} {issues : List Issue} {i : Issue} (h : Minted b invalid w turns issues)
    (minted : turn b invalid w turns = .ok i.certificate) :
    Minted b invalid w (turns + 1) (issues ++ [i]) := by
  rw [Minted, List.map_append, h, List.range_succ, List.map_append, List.map_singleton, List.map_singleton,
    minted]

/-- Every turn came to a certificate. -/
theorem Minted.exists_ok {turns j : Nat} {issues : List Issue} (h : Minted b invalid w turns issues)
    (early : j < turns) : ∃ i, issues[j]? = some i ∧ turn b invalid w j = .ok i.certificate := by
  have entry := congrArg (·[j]?) h
  simp only [List.getElem?_map, List.getElem?_range early, Option.map_some] at entry
  obtain ⟨i, at_, same⟩ := Option.map_eq_some_iff.mp entry
  exact ⟨i, at_, same.symm⟩

/-- Every way in which the turns of a chain can end. -/
inductive Chaining (b : Builder) (invalid : Datum) (w w' : Workshop) :
    Except Fault (List Certificate) → Prop where
  /-- Something stops a turn. -/
  | stopped (j : Nat) (o : Obstacle) (keys : List (Except Fault Rsa.KeyPair))
      (serials : List (Except Fault Datum)) (issues : List Issue) (early : j < chainLength)
      (minted : Minted b invalid w j issues) (stops : turn b invalid w j = .error o)
      (ledger : Ledger w w' keys serials (o.readings j) issues) (keys_length : keys.length = o.keys j)
      (serials_length : serials.length = o.serials j) : Chaining b invalid w w' (.error o.reported)
  /-- Every turn comes to a certificate. -/
  | finished (keys : List (Except Fault Rsa.KeyPair)) (serials : List (Except Fault Datum))
      (issues : List Issue) (minted : Minted b invalid w chainLength issues)
      (ledger : Ledger w w' keys serials chainLength issues) (keys_length : keys.length = chainLength)
      (serials_length : serials.length = chainLength) :
      Chaining b invalid w w' (.ok (issues.map (·.certificate)).reverse)

theorem Chaining.idle {r : Except Fault (List Certificate)} (h : Chaining b invalid w v r)
    (idles : Idles v v') : Chaining b invalid w v' r := by
  cases h with
  | stopped j o keys serials issues early minted stops ledger keys_length serials_length =>
      exact .stopped j o keys serials issues early minted stops (ledger.idle idles) keys_length
        serials_length
  | finished keys serials issues minted ledger keys_length serials_length =>
      exact .finished keys serials issues minted (ledger.idle idles) keys_length serials_length

/-- A turn for which no key pair is made is stopped before a serial number is drawn. -/
theorem Chaining.of_key {j : Nat} {o : Obstacle} {keys : List (Except Fault Rsa.KeyPair)}
    {serials : List (Except Fault Datum)} {issues : List Issue} (early : j < chainLength)
    (minted : Minted b invalid w j issues) (stops : turn b invalid w j = .error o)
    (ledger : Ledger w v keys serials j issues) (keys_length : keys.length = o.keys j)
    (serials_length : serials.length = j) (serials_eq : o.serials j = j) (readings_eq : o.readings j = j) :
    Chaining b invalid w v (.error o.reported) :=
  .stopped j o keys serials issues early minted stops (readings_eq.symm ▸ ledger) keys_length
    (serials_length.trans serials_eq.symm)

/-! ## The loop -/

/-- What holds when the key pair for a turn has been made and its certificate is due. -/
structure Due (b : Builder) (invalid : Datum) (w v : Workshop) (j : Nat) (issuer subject : Rsa.KeyPair)
    (keys : List (Except Fault Rsa.KeyPair)) (serials : List (Except Fault Datum))
    (issues : List Issue) : Prop where
  ledger : Ledger w v keys serials j issues
  keys_length : keys.length = j + 1
  serials_length : serials.length = j
  issuerAt : keyAt b.settings w (j - 1) = .ok issuer
  subjectAt : keyAt b.settings w j = .ok subject
  minted : Minted b invalid w j issues

variable {j : Nat} {issuer subject : Rsa.KeyPair} {keys : List (Except Fault Rsa.KeyPair)}
  {serials : List (Except Fault Datum)} {issues : List Issue}

theorem getElem?_of_keyAt {s : Settings} {k : Rsa.KeyPair} (h : keyAt s w j = .ok k) :
    w.keys[j]? = some (.ok k) := by
  unfold keyAt at h
  split at h
  · cases h
  · cases h
  · cases h
  · next k' entry => rw [entry, Except.ok.inj h]

/-- The certificate that is due is issued, or the turn is stopped. -/
theorem Due.cases_issue {distance : Nat} {r : Except Fault Certificate}
    (due : Due b invalid w v j issuer subject keys serials issues) (early : j < chainLength)
    (here : chainLength - 1 - j = distance)
    (run : (b.forge.issue (some issuer) (some subject) (.bool (!Datum.same (.int distance) invalid))
      (.int distance)).perform v = (r, v')) :
    (∃ i, r = .ok i.certificate ∧ Minted b invalid w (j + 1) (issues ++ [i]) ∧
      Ledger w v' keys (serials ++ [.ok i.serial]) (j + 1) (issues ++ [i])) ∨
    ∃ o : Obstacle, r = .error o.reported ∧ Chaining b invalid w v' (.error o.reported) := by
  obtain rfl := due.minted.length_eq
  subst here
  have subjectAt : keys[issues.length]? = some (.ok subject) := by
    have entry := getElem?_of_keyAt due.subjectAt
    rwa [due.ledger.keys_eq, List.getElem?_append_left (by rw [due.keys_length]; exact Nat.lt_succ_self _)]
      at entry
  have whole : turn b invalid w issues.length = certificateAt b.forge w issues.length issuer subject
      (!Datum.same (.int (chainLength - 1 - issues.length : Nat)) invalid)
      (chainLength - 1 - issues.length) := by
    simp only [turn, due.issuerAt, due.subjectAt]
  rcases due.ledger.cases_issue due.serials_length subjectAt _ run with
    ⟨i, issued, same, ledger⟩ | ⟨o, drawn, stops, same, ledger, serials_length, keys_length⟩
  · exact .inl ⟨i, same, due.minted.next (whole.trans issued), ledger⟩
  · refine .inr ⟨o, same, .stopped _ o keys _ issues early due.minted (whole.trans stops) ledger ?_
      serials_length⟩
    rw [due.keys_length, keys_length]

/-- The next certificate becomes due, for a fresh key pair and with the subject of this turn as its issuer, or
    the next turn is stopped. -/
theorem Due.cases_generate {i : Issue} {r : Except Fault Rsa.KeyPair}
    (due : Due b invalid w v j issuer subject keys serials issues) (early : j + 1 < chainLength)
    (minted : Minted b invalid w (j + 1) (issues ++ [i]))
    (ledger : Ledger w v' keys (serials ++ [.ok i.serial]) (j + 1) (issues ++ [i])) {v₁ : Workshop}
    (run : (generate b.settings).perform v' = (r, v₁)) :
    (∃ k, r = .ok k ∧ Due b invalid w v₁ (j + 1) subject k (keys ++ [.ok k])
      (serials ++ [.ok i.serial]) (issues ++ [i])) ∨
    ∃ o : Obstacle, r = .error o.reported ∧ Chaining b invalid w v₁ (.error o.reported) := by
  have serials_length : (serials ++ [Except.ok i.serial]).length = j + 1 := by
    rw [List.length_append, due.serials_length]
    rfl
  have drawn := ledger.cases_generate run
  rw [due.keys_length] at drawn
  rcases drawn with ⟨k, made, same, ledger'⟩ | ⟨o, _, stops, same, ledger', keys_length, counts⟩
  · exact .inl ⟨k, same, {
      ledger := ledger'
      keys_length := by rw [List.length_append, due.keys_length]; rfl
      serials_length := serials_length
      issuerAt := due.subjectAt
      subjectAt := made
      minted := minted }⟩
  · have whole : turn b invalid w (j + 1) = .error o := by
      simp only [turn, Nat.add_sub_cancel, due.subjectAt, stops]
    exact .inr ⟨o, same, .of_key early minted whole ledger' keys_length serials_length counts.1 counts.2⟩

/-- From any turn on, the loop goes on to the end of the chain or to the first turn that is stopped. -/
theorem Due.chaining {position : Nat} {r : Except Fault (List Certificate)}
    (due : Due b invalid w v j issuer subject keys serials issues)
    (left : j + position + 1 = chainLength)
    (run : (b.certificatesFrom invalid issuer subject position).perform v = (r, v')) :
    Chaining b invalid w v' (r.map (· ++ (issues.map (·.certificate)).reverse)) := by
  induction position generalizing v v' j issuer subject keys serials issues r with
  | zero =>
      have last : chainLength - 1 - j = 0 := by omega
      rw [Builder.certificatesFrom, Work.perform_bind] at run
      rcases issuing : (b.forge.issue (some issuer) (some subject) (.bool (!Datum.same (.int 0) invalid))
        (.int 0)).perform v with ⟨r₁, v₁⟩
      rw [issuing] at run
      rcases due.cases_issue (by omega) last issuing with
        ⟨i, rfl, minted, ledger⟩ | ⟨o, rfl, chaining⟩ <;> obtain ⟨rfl, rfl⟩ := Prod.mk.inj run
      · have all : j + 1 = chainLength := by omega
        rw [all] at minted ledger
        have finished := Chaining.finished keys _ _ minted ledger (due.keys_length.trans all)
          (by rw [List.length_append, due.serials_length]; exact all)
        rwa [List.map_append, List.reverse_append] at finished
      · exact chaining
  | succ position ih =>
      have here : chainLength - 1 - j = position + 1 := by omega
      rw [Builder.certificatesFrom, Work.perform_bind] at run
      rcases issuing : (b.forge.issue (some issuer) (some subject)
        (.bool (!Datum.same (.int (position + 1)) invalid)) (.int (position + 1))).perform v with ⟨r₁, v₁⟩
      rw [issuing] at run
      rcases due.cases_issue (by omega) here issuing with ⟨i, rfl, minted, ledger⟩ | ⟨o, rfl, chaining⟩
      · dsimp only at run
        rw [Work.perform_bind] at run
        rcases generation : (generate b.settings).perform v₁ with ⟨r₂, v₂⟩
        rw [generation] at run
        rcases due.cases_generate (by omega) minted ledger generation with
          ⟨k, rfl, next⟩ | ⟨o, rfl, chaining⟩
        · dsimp only at run
          rw [Work.perform_bind] at run
          rcases below : (b.certificatesFrom invalid subject k position).perform v₂ with ⟨r₃, v₃⟩
          have rest := ih next (by omega) below
          rw [below] at run
          cases r₃ <;> obtain ⟨rfl, rfl⟩ := Prod.mk.inj run
          case error => exact rest
          case ok cs =>
            -- the certificate of this turn stands above those below it
            rw [List.map_append, List.reverse_append] at rest
            change Chaining b invalid w v₃
              (.ok (cs ++ [i.certificate] ++ (issues.map (·.certificate)).reverse))
            rw [List.append_assoc]
            exact rest
        · obtain ⟨rfl, rfl⟩ := Prod.mk.inj run
          exact chaining
      · obtain ⟨rfl, rfl⟩ := Prod.mk.inj run
        exact chaining

/-- The measured work of building a chain: the key pair for the root, and the loop. -/
theorem chaining_of_measuredIf {r : Except Fault (List Certificate)}
    (run : (measuredIf b.measures "build_chain" [("invalid_position", invalid)] (do
      let rootPair ← generate b.settings
      b.certificatesFrom invalid rootPair rootPair (chainLength - 1))).perform w = (r, v')) :
    Chaining b invalid w v' r := by
  obtain ⟨w₁, w₂, work, before, after⟩ := exists_of_measuredIf run
  rw [Work.perform_bind] at work
  rcases generation : (generate b.settings).perform w₁ with ⟨r₂, w₃⟩
  rw [generation] at work
  have minted : Minted b invalid w 0 [] := rfl
  rcases (Ledger.of_idles before).cases_generate generation with ⟨k, made, rfl, drawn⟩ |
    ⟨o, drawn, stops, rfl, ledger, keys_length, serials_eq, readings_eq⟩
  · have first : Due b invalid w w₃ 0 k k _ _ _ := {
      ledger := drawn
      keys_length := rfl
      serials_length := rfl
      issuerAt := made
      subjectAt := made
      minted := minted }
    have loop := (first.chaining rfl work).idle after
    have whole : r.map (· ++ []) = r := by cases r <;> simp [Except.map]
    rwa [List.map_nil, List.reverse_nil, whole] at loop
  · obtain ⟨rfl, rfl⟩ := Prod.mk.inj work
    have whole : turn b invalid w 0 = .error o := by
      have stops : keyAt b.settings w 0 = .error o := stops
      simp only [turn, stops]
    exact .of_key (by decide) minted whole (ledger.idle after) keys_length rfl serials_eq readings_eq

theorem Chaining.length_eq {cs : List Certificate} (h : Chaining b invalid w v (.ok cs)) :
    cs.length = chainLength := by
  cases h with
  | finished keys serials issues minted =>
      rw [List.length_reverse, List.length_map, minted.length_eq]

/-- Building a chain ends with what its turns end with. -/
theorem chaining_of_chain {r : Except Fault Chain} (checked : Builder.checkPosition invalid = .ok ())
    (run : (b.chain invalid).perform w = (r, v')) :
    ∃ r₁, Chaining b invalid w v' r₁ ∧ (∀ e, r₁ = .error e → r = .error e) ∧
      ∀ cs, r₁ = .ok cs → ∃ chain, r = .ok chain ∧ chain.certificates = cs := by
  rw [Builder.chain, Work.perform_bind, Work.perform_ofExcept, checked] at run
  dsimp only at run
  rw [Work.perform_bind] at run
  rcases measured : (measuredIf b.measures "build_chain" [("invalid_position", invalid)] (do
      let rootPair ← generate b.settings
      b.certificatesFrom invalid rootPair rootPair (chainLength - 1))).perform w with ⟨r₁, w₁⟩
  rw [measured] at run
  have chaining := chaining_of_measuredIf measured
  cases r₁ with
  | error e =>
      obtain ⟨rfl, rfl⟩ := Prod.mk.inj run
      exact ⟨.error e, chaining, fun e' h => (by rw [Except.error.inj h]), fun _ h => (by cases h)⟩
  | ok cs =>
      have other : chainLogger ≠ forgeLogger := by decide
      obtain ⟨shown, written⟩ := exists_plain?_of_checkPosition checked
      simp only [Work.perform_bind, Work.perform_ofExcept, Work.perform_note, Datum.plain, written, Chain.of,
        dif_pos chaining.length_eq] at run
      obtain ⟨rfl, rfl⟩ := Prod.mk.inj run
      exact ⟨.ok cs, chaining.idle (.of_note ⟨rfl, rfl, rfl, rfl, rfl⟩ rfl other), fun _ h => (by cases h),
        fun cs' h => ⟨_, rfl, Except.ok.inj h⟩⟩

end Turns

/-! ## Chains -/

/-- Between two states of a workshop so many entries were taken from the fronts of its supplies, and its
    clock was read so often. -/
structure Consumes (w w' : Workshop) (keys serials readings : Nat) : Prop where
  keys_le : keys ≤ w.keys.length
  keys_eq : w'.keys = w.keys.drop keys
  serials_le : serials ≤ w.serials.length
  serials_eq : w'.serials = w.serials.drop serials
  readings_eq : w'.readings = w.readings + readings

theorem consumes_of_spends {w w' : Workshop} {keys : List (Except Fault Rsa.KeyPair)}
    {serials : List (Except Fault Datum)} {readings : Nat} (h : Spends w w' keys serials readings) :
    Consumes w w' keys.length serials.length readings where
  keys_le := by rw [h.keys_eq, List.length_append]; exact Nat.le_add_right _ _
  keys_eq := by rw [h.keys_eq, List.drop_left]
  serials_le := by rw [h.serials_eq, List.length_append]; exact Nat.le_add_right _ _
  serials_eq := by rw [h.serials_eq, List.drop_left]
  readings_eq := h.readings_eq

theorem checkPosition_positionDatum (position : Option (Fin 4)) :
    Builder.checkPosition (positionDatum position) = .ok () := by
  cases position with
  | none => rfl
  | some i => fin_cases i <;> rfl

/-- The certificates of a chain are those of its turns, the last of which has the end of the chain. -/
theorem Minted.turn_at_ {b : Builder} {invalid : Datum} {w : Workshop} {issues : List Issue} {chain : Chain}
    (h : Minted b invalid w chainLength issues)
    (certificates : chain.certificates = (issues.map (·.certificate)).reverse) (i : Fin 4) :
    turn b invalid w (chainLength - 1 - i) = .ok (chain.at_ i) := by
  have inside : chainLength - 1 - i < chainLength := by
    unfold chainLength
    omega
  obtain ⟨issue, at_, minted⟩ := h.exists_ok inside
  have entry : chain.certificates[i.val]? = some issue.certificate := by
    rw [certificates, List.getElem?_reverse (by rw [List.length_map, h.length_eq]; exact i.isLt),
      List.length_map, h.length_eq, List.getElem?_map, at_]
    rfl
  obtain ⟨_, same⟩ := List.getElem?_eq_some_iff.mp entry
  rw [minted]
  exact congrArg Except.ok same.symm

/-- The first turn of a chain that something stops ends it: with a failed operation that quotes the fault of
    the engine, if the engine was at fault, and with the fault unchanged otherwise. Then the turns before it
    have used up a key pair, a serial number and a reading each, and the turn itself what its steps took. If
    nothing stops any turn the chain is built, and four of each are used up. -/
theorem chain_ends_with_turns {b : Builder} {position : Option (Fin 4)} {w w' : Workshop}
    {r : Except Fault Chain} (run : (b.chain (positionDatum position)).perform w = (r, w')) :
    (∀ j < chainLength, ∀ o, (∀ i < j, ∃ c, turn b (positionDatum position) w i = .ok c) →
      turn b (positionDatum position) w j = .error o →
      ∃ f, r = .error f ∧ o.Leaves f ∧ Consumes w w' (o.keys j) (o.serials j) (o.readings j)) ∧
    ((∀ j < chainLength, ∃ c, turn b (positionDatum position) w j = .ok c) →
      ∃ chain, r = .ok chain ∧
        ∀ i : Fin 4, turn b (positionDatum position) w (chainLength - 1 - i) = .ok (chain.at_ i)) ∧
    ∀ chain, r = .ok chain → Consumes w w' chainLength chainLength chainLength := by
  obtain ⟨r₁, chaining, failed, done⟩ := chaining_of_chain (checkPosition_positionDatum position) run
  cases chaining with
  | stopped j o keys serials issues early minted stops ledger keys_length serials_length =>
      obtain rfl := failed _ rfl
      have consumes := consumes_of_spends ledger.toSpends
      rw [keys_length, serials_length] at consumes
      refine ⟨fun j' _ o' earlier stops' => ?_, fun all => ?_, fun chain same => by cases same⟩
      · -- the turn that is stopped first can only be the one that the loop stopped at
        rcases Nat.lt_trichotomy j j' with before | rfl | after
        · obtain ⟨c, issued⟩ := earlier j before
          cases stops.symm.trans issued
        · obtain rfl := Except.error.inj (stops.symm.trans stops')
          exact ⟨_, rfl, o.leaves_reported, consumes⟩
        · obtain ⟨i, -, issued⟩ := minted.exists_ok after
          cases stops'.symm.trans issued
      · obtain ⟨c, issued⟩ := all j early
        cases stops.symm.trans issued
  | finished keys serials issues minted ledger keys_length serials_length =>
      obtain ⟨chain, rfl, certificates⟩ := done _ rfl
      have consumes := consumes_of_spends ledger.toSpends
      rw [keys_length, serials_length] at consumes
      refine ⟨fun j early o _ stops => ?_, fun _ => ⟨chain, rfl, minted.turn_at_ certificates⟩,
        fun _ _ => consumes⟩
      obtain ⟨i, -, issued⟩ := minted.exists_ok early
      cases stops.symm.trans issued

/-! ### A key pair that is refused -/

/-- The stocked workshop with an engine that refuses to make the third key pair. -/
def haltedWorkshop : Workshop :=
  { stockedWorkshop with keys := [.ok Rsa.mersennePair, .ok Rsa.mersennePair,
      .error (.of .value "engine refused"), .ok Rsa.mersennePair] }

theorem isOk_turn_halted : ∀ j < 2,
    (turn defaultBuilder (positionDatum (some 1)) haltedWorkshop j).isOk = true := by
  decide +kernel

theorem turn_halted : turn defaultBuilder (positionDatum (some 1)) haltedWorkshop 2 =
    .error (.key (.of .value "engine refused") true) := by
  have before : keyAt defaultBuilder.settings haltedWorkshop (2 - 1) = .ok Rsa.mersennePair := by
    have entry : haltedWorkshop.keys[2 - 1]? = some (.ok Rsa.mersennePair) := rfl
    have accepts : checkRequest haltedWorkshop.maker defaultBuilder.settings.keySize
        defaultBuilder.settings.publicExponent = .ok () := able_defaultBuilder.accepts
    simp only [keyAt, accepts, entry]
  have refused : keyAt defaultBuilder.settings haltedWorkshop 2 =
      .error (.key (.of .value "engine refused") true) := rfl
  simp only [turn, before, refused]

/-- The third key pair of a chain is refused: two certificates have been issued, and are lost. -/
theorem chain_ends_with_turns_halted :
    ∃ w', (defaultBuilder.chain (positionDatum (some 1))).perform haltedWorkshop =
      (.error (.because (.operationFailed (.text "key generation"))
        "key generation failed: engine refused" (.of .value "engine refused") true), w') ∧
      Consumes haltedWorkshop w' 3 2 2 := by
  rcases run : (defaultBuilder.chain (positionDatum (some 1))).perform haltedWorkshop with ⟨r, w'⟩
  obtain ⟨stops, -, -⟩ := chain_ends_with_turns run
  have earlier : ∀ i < 2, ∃ c, turn defaultBuilder (positionDatum (some 1)) haltedWorkshop i = .ok c := by
    intro i early
    have issued := isOk_turn_halted i early
    cases h : turn defaultBuilder (positionDatum (some 1)) haltedWorkshop i with
    | ok c => exact ⟨c, rfl⟩
    | error o =>
        rw [h] at issued
        cases issued
  obtain ⟨f, rfl, leaves, consumes⟩ := stops 2 (by decide) _ earlier turn_halted
  refine ⟨w', ?_, consumes⟩
  cases leaves with
  | failed asked _ =>
      cases asked
      rfl
  | unchanged other => rcases other with other | other <;> cases other

end CertMint.Mint
