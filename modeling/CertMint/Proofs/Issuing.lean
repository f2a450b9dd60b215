import CertMint.Proofs.ReadBack
import CertMint.Proofs.Windows

/-! # Keys and certificates, one at a time

Every way in which the making of a key pair and the issuing of a certificate can end, with what each of
them has used up by then. Loops over keys and certificates are about these outcomes only.
-/

namespace CertMint.Mint

open X509

/-! ## Key pairs -/

theorem integer_eq_ok_iff {d : Datum} {i : Int} : integer d = .ok i ↔ d = .int i := by
  cases d <;> simp [integer]

/-- A request is taken if it is for integers: the one exponent or the other, and a size that is large enough and
    not too large for what makes the key pairs. -/
theorem checkRequest_eq_ok_iff {maker : KeyMaker} {size exponent : Datum} :
    checkRequest maker size exponent = .ok () ↔ ∃ bits e : Int, size = .int bits ∧ exponent = .int e ∧
      e ∈ Settings.publicExponents ∧ 1024 ≤ bits ∧ bits ≤ maker.largest.val := by
  have known (e : Int) : (Settings.publicExponents.any fun i => (Datum.int e).same (.int i)) = true ↔
      e ∈ Settings.publicExponents := by
    simp [Datum.same, Datum.sameNumber?, Datum.int?]
  have order_ (bits : Int) : order "<" (.int bits) 1024 = .ok (some (compare bits 1024)) := rfl
  have small (bits : Int) : some (compare bits 1024) = some Ordering.lt ↔ bits < 1024 := by
    rw [Option.some.injEq, Int.compare_eq_lt]
  unfold checkRequest
  constructor
  · intro taken
    split at taken
    · cases taken
    · next other =>
        obtain ⟨o, ordered, taken⟩ := bind_eq_ok.mp taken
        split at taken
        · cases taken
        · next large =>
            obtain ⟨e, isExponent, taken⟩ := bind_eq_ok.mp taken
            obtain ⟨bits, isSize, taken⟩ := bind_eq_ok.mp taken
            rw [integer_eq_ok_iff] at isExponent isSize
            split at taken
            · cases taken
            · next fits =>
                subst isExponent isSize
                rw [Bool.not_eq_true', Bool.not_eq_false, known] at other
                obtain rfl := Except.ok.inj ((order_ bits).symm.trans ordered)
                rw [small] at large
                exact ⟨bits, e, rfl, rfl, other, Int.not_lt.mp large, Int.not_lt.mp fits⟩
  · rintro ⟨bits, e, rfl, rfl, member, large, fits⟩
    have other := (known e).mpr member
    simp only [other, order_, ok_bind, small, if_neg (Int.not_lt.mpr large), integer,
      if_neg (Int.not_lt.mpr fits)]
    rfl

theorem plain?_int_eq (i : Int) : (Datum.int i).plain? = Integer.text? i := by
  rw [Datum.plain?, Datum.shown?]
  all_goals intros; contradiction

theorem plain?_int_of_short {i : Int} (short : i.natAbs < Nat.pow 10 Integer.maxDigits) :
    (Datum.int i).plain? = some (toString i) := by
  rw [plain?_int_eq, Integer.text?]
  -- the bound is no number to compute
  generalize Integer.maxDigits = bound at short ⊢
  rw [if_pos short]

/-- The size of a request that is taken can be written. -/
theorem exists_plain?_of_checkRequest {maker : KeyMaker} {size exponent : Datum}
    (taken : checkRequest maker size exponent = .ok ()) : ∃ text, size.plain? = some text := by
  obtain ⟨bits, e, rfl, -, -, large, fits⟩ := checkRequest_eq_ok_iff.mp taken
  have short : bits.natAbs < Nat.pow 10 Integer.maxDigits :=
    calc bits.natAbs
      _ ≤ maker.largest.val.natAbs := by omega
      _ < Nat.pow 10 Integer.maxDigits := maker.largest.property
  exact ⟨_, plain?_int_of_short short⟩

/-- The fault that stops the making of a key pair in place of a fault of the engine. -/
def generationFault (f : Fault) : Fault :=
  if isEngineFault f.kind then f.asFailure "key generation" else f

/-- What is noted of a key pair. -/
def generationNote (s : Settings) : Log.Note :=
  .of .debug keyLogger ("Generated " ++ (s.keySize.plain?).getD "" ++ "-bit RSA key pair")

/-- Every way in which the making of a key pair can end. -/
inductive Generating (s : Settings) (w w' : Workshop) : Except Fault Rsa.KeyPair → Prop where
  /-- The request is refused. -/
  | refused (f : Fault) (refusal : checkRequest w.maker s.keySize s.publicExponent = .error f)
      (spends : Spends w w' [] [] 0) : Generating s w w' (.error (generationFault f))
  /-- There are no keys to come. -/
  | exhausted (empty : w.keys = []) (spends : Spends w w' [] [] 0) :
      Generating s w w' (.error (generationFault (.of .value "out of keys")))
  /-- The key pair cannot be made. -/
  | failed (f : Fault) (spends : Spends w w' [.error f] [] 0) :
      Generating s w w' (.error (generationFault f))
  /-- The key pair is made. -/
  | drawn (k : Rsa.KeyPair) (spends : Spends w w' [.ok k] [] 0) : Generating s w w' (.ok k)

theorem perform_request (size exponent : Datum) (w : Workshop) :
    (request size exponent).perform w =
      match checkRequest w.maker size exponent with
      | .error f => (.error f, { w with requests := w.requests ++ [(size, exponent)] })
      | .ok () => Work.drawKey.perform { w with requests := w.requests ++ [(size, exponent)] } := by
  simp only [request, Work.perform_bind, Work.perform_change, Work.perform_maker, Work.perform_ofExcept]
  cases checkRequest w.maker size exponent <;> rfl

theorem perform_generate (s : Settings) (w : Workshop) :
    (generate s).perform w =
      match checkRequest w.maker s.keySize s.publicExponent, w.keys with
      | .error f, _ => (.error (generationFault f),
          { w with requests := w.requests ++ [(s.keySize, s.publicExponent)] })
      | .ok (), [] => (.error (generationFault (.of .value "out of keys")),
          { w with requests := w.requests ++ [(s.keySize, s.publicExponent)] })
      | .ok (), .error f :: rest => (.error (generationFault f),
          { w with requests := w.requests ++ [(s.keySize, s.publicExponent)], keys := rest })
      | .ok (), .ok k :: rest => (.ok k,
          { w with
            requests := w.requests ++ [(s.keySize, s.publicExponent)]
            keys := rest
            notes := w.notes ++ [generationNote s] }) := by
  simp only [generate, Work.perform_bind, Work.perform_wrapping, perform_request, Work.perform_drawKey,
    Work.perform_ofExcept, Work.perform_note, Work.perform_pure, Datum.plain]
  cases taken : checkRequest w.maker s.keySize s.publicExponent with
  | error => rfl
  | ok =>
      rcases w.keys with _ | ⟨_ | _, _⟩
      · rfl
      · rfl
      · obtain ⟨text, written⟩ := exists_plain?_of_checkRequest taken
        simp only [written, generationNote, Option.getD_some]

theorem generating {s : Settings} {w w' : Workshop} {r : Except Fault Rsa.KeyPair}
    (h : (generate s).perform w = (r, w')) : Generating s w w' r := by
  rw [perform_generate] at h
  split at h <;> obtain ⟨rfl, rfl⟩ := Prod.mk.inj h
  · next f refusal => exact .refused f refusal ⟨rfl, rfl, rfl, rfl, rfl⟩
  · next keys => exact .exhausted keys ⟨rfl, rfl, rfl, rfl, rfl⟩
  · next f rest _ keys => exact .failed f ⟨keys, rfl, rfl, rfl, rfl⟩
  · next k rest _ keys => exact .drawn k ⟨keys, rfl, rfl, rfl, rfl⟩

/-! ## Certificates -/

/-- The description of a certificate at a distance from the end of its chain. -/
def specOf (issuer subject : Rsa.KeyPair) (distance : Nat) (serial : Datum) (validity : Window) :
    Spec where
  issuer := keyName issuer.publicKey
  subject := keyName subject.publicKey
  serial := serial
  validity := validity
  pathLength := if distance = 0 then .none else .int (distance - 1)

theorem checkPathLength_specOf (issuer subject : Rsa.KeyPair) (distance : Nat) (serial : Datum)
    (validity : Window) :
    checkPathLength (specOf issuer subject distance serial validity).pathLength =
      .ok (if distance = 0 then none else some (distance - 1)) := by
  cases distance <;> simp [specOf, checkPathLength, Datum.int?]

/-- The fault of a distance for which no path length can be signed. -/
def tooDistant : Fault := .of .type "failed to extract field PyBasicConstraints.path_length"

/-- The extensions at a distance: none at the end, and a path length above it, if it can be signed. -/
theorem extensionsFor_distance (distance : Nat) :
    extensionsFor (if distance = 0 then none else some (distance - 1)) =
      if distance ≤ 2 ^ 64 then
        .ok (if distance = 0 then [] else [Extension.ofAuthority (distance - 1)])
      else .error tooDistant := by
  cases distance with
  | zero => rfl
  | succ below =>
      have same : below < pathLengthBound ↔ below + 1 ≤ 2 ^ 64 := Iff.rfl
      simp only [Nat.succ_ne_zero, if_false, Nat.add_sub_cancel, extensionsFor, same]
      rfl

theorem Built.distance_le {digest : Digest.Algorithm} {issuer subject : Rsa.KeyPair} {distance : Nat}
    {serial : Datum} {validity : Window} {c : Certificate}
    (h : Built digest (specOf issuer subject distance serial validity) issuer subject c) :
    distance ≤ 2 ^ 64 := by
  obtain ⟨pathLength, checked, extensions⟩ := h.extensions
  rw [checkPathLength_specOf] at checked
  obtain rfl := Except.ok.inj checked
  rw [extensionsFor_distance] at extensions
  by_contra distant
  rw [if_neg distant] at extensions
  cases extensions

theorem pathLengthAt_natCast (distance : Nat) :
    Forge.pathLengthAt (.int distance) =
      .ok (if distance = 0 then .none else .int (distance - 1)) := by
  have above : order ">" (.int distance) 0 = .ok (some (compare (distance : Int) 0)) := rfl
  cases distance with
  | zero => rfl
  | succ below =>
      have greater : some (compare ((below + 1 : Nat) : Int) 0) = some .gt :=
        congrArg some (Int.compare_eq_gt.mpr (by omega))
      simp only [Forge.pathLengthAt, above, ok_bind, if_pos greater, Datum.int?, Nat.succ_ne_zero,
        if_false]
      rfl

theorem perform_describe (f : Forge) (issuer subject : Rsa.KeyPair) (valid : Bool) (distance : Nat)
    (w : Workshop) :
    (f.describe (some issuer) (some subject) (.bool valid) (.int distance)).perform w =
      match Work.drawSerial.perform w with
      | (.error e, w') => (.error e, w')
      | (.ok serial, w') =>
        match Work.readClock.perform w' with
        | (.error e, w') => (.error e, w')
        | (.ok now, w') => ((Window.ofSettings f.settings valid now).map
            (specOf issuer subject distance serial), w') := by
  have below : order "<" (.int distance) 0 = .ok (some (compare (distance : Int) 0)) := rfl
  have notLess : ¬ some (compare (distance : Int) 0) = some .lt := by
    intro less
    have := Int.compare_eq_lt.mp (Option.some.inj less)
    omega
  simp only [Forge.describe, below, Work.perform_bind, Work.perform_ofExcept, if_neg notLess,
    pathLengthAt_natCast, Datum.truthy, Work.perform_pure]
  rcases Work.drawSerial.perform w with ⟨_ | serial, w₁⟩
  · rfl
  · rcases eq : Work.readClock.perform w₁ with ⟨_ | now, w₂⟩
    · simp only [eq]
    · simp only [eq]
      cases Window.ofSettings f.settings valid now <;> rfl

/-- Every way in which the description of a certificate can end. -/
inductive Describing (s : Settings) (issuer subject : Rsa.KeyPair) (valid : Bool) (distance : Nat)
    (w w' : Workshop) : Except Fault Spec → Prop where
  /-- There are no serial numbers to come. -/
  | exhausted (empty : w.serials = []) (spends : Spends w w' [] [] 0) :
      Describing s issuer subject valid distance w w' (.error (.of .runtime "out of serials"))
  /-- The serial number cannot be drawn. -/
  | undrawn (e : Fault) (spends : Spends w w' [] [.error e] 0) :
      Describing s issuer subject valid distance w w' (.error e)
  /-- The clock shows no moment. -/
  | timeless (serial : Datum) (spends : Spends w w' [] [.ok serial] 1)
      (shows : w.clock w.readings = none) :
      Describing s issuer subject valid distance w w' (.error Work.outOfYears)
  /-- The settings have no window as of now. -/
  | windowless (serial : Datum) (now : Moment) (e : Fault) (spends : Spends w w' [] [.ok serial] 1)
      (shows : w.clock w.readings = some now) (fails : Window.ofSettings s valid now = .error e) :
      Describing s issuer subject valid distance w w' (.error e)
  /-- The certificate is described. -/
  | described (serial : Datum) (now : Moment) (validity : Window)
      (spends : Spends w w' [] [.ok serial] 1) (shows : w.clock w.readings = some now)
      (window : Window.ofSettings s valid now = .ok validity) :
      Describing s issuer subject valid distance w w'
        (.ok (specOf issuer subject distance serial validity))

section Endings

variable {f : Forge} {issuer subject : Rsa.KeyPair} {valid : Bool} {distance : Nat} {w w' : Workshop}

theorem describing {r : Except Fault Spec}
    (h : (f.describe (some issuer) (some subject) (.bool valid) (.int distance)).perform w = (r, w')) :
    Describing f.settings issuer subject valid distance w w' r := by
  rw [perform_describe, Work.perform_drawSerial] at h
  cases serials : w.serials with
  | nil =>
      simp only [serials] at h
      obtain ⟨rfl, rfl⟩ := Prod.mk.inj h
      exact .exhausted serials (.nothing w)
  | cons next rest =>
      cases next with
      | error e =>
          simp only [serials] at h
          obtain ⟨rfl, rfl⟩ := Prod.mk.inj h
          exact .undrawn e ⟨rfl, serials, rfl, rfl, rfl⟩
      | ok serial =>
          have spends : Spends w { w with serials := rest, readings := w.readings + 1 } []
              [.ok serial] 1 := ⟨rfl, serials, rfl, rfl, rfl⟩
          simp only [serials, Work.perform_readClock] at h
          cases shows : w.clock w.readings with
          | none =>
              simp only [shows] at h
              obtain ⟨rfl, rfl⟩ := Prod.mk.inj h
              exact .timeless serial spends shows
          | some now =>
              simp only [shows] at h
              cases window : Window.ofSettings f.settings valid now with
              | error e =>
                  rw [window] at h
                  obtain ⟨rfl, rfl⟩ := Prod.mk.inj h
                  exact .windowless serial now e spends shows window
              | ok validity =>
                  rw [window] at h
                  obtain ⟨rfl, rfl⟩ := Prod.mk.inj h
                  exact .described serial now validity spends shows window

/-- Every way in which the issuing of a certificate can end. -/
inductive Issuing (f : Forge) (issuer subject : Rsa.KeyPair) (valid : Bool) (distance : Nat)
    (w w' : Workshop) : Except Fault Certificate → Prop where
  /-- It is not even described. -/
  | undescribed (e : Fault)
      (describing : Describing f.settings issuer subject valid distance w w' (.error e)) :
      Issuing f issuer subject valid distance w w' (.error e)
  /-- What was described cannot be signed. -/
  | unsigned (serial : Datum) (now : Moment) (validity : Window) (e : Fault)
      (spends : Spends w w' [] [.ok serial] 1) (shows : w.clock w.readings = some now)
      (window : Window.ofSettings f.settings valid now = .ok validity)
      (fails : sign f.digest (specOf issuer subject distance serial validity) (some issuer)
        (some subject) = .error e) :
      Issuing f issuer subject valid distance w w' (.error e)
  /-- The certificate is signed, but what is noted of it cannot be written. -/
  | unwritable (serial : Datum) (now : Moment) (validity : Window) (c : Certificate)
      (spends : Spends w w' [] [.ok serial] 1) (shows : w.clock w.readings = some now)
      (window : Window.ofSettings f.settings valid now = .ok validity)
      (builds : build f.digest (specOf issuer subject distance serial validity) issuer subject = .ok c)
      (long : serial.plain? = none ∨ (Datum.int distance).plain? = none) :
      Issuing f issuer subject valid distance w w' (.error .integerTooLong)
  /-- The certificate is issued. -/
  | issued (serial : Datum) (now : Moment) (validity : Window) (c : Certificate)
      (spends : Spends w w' [] [.ok serial] 1) (shows : w.clock w.readings = some now)
      (window : Window.ofSettings f.settings valid now = .ok validity)
      (builds : build f.digest (specOf issuer subject distance serial validity) issuer subject = .ok c) :
      Issuing f issuer subject valid distance w w' (.ok c)

theorem issuing {r : Except Fault Certificate}
    (h : (f.issue (some issuer) (some subject) (.bool valid) (.int distance)).perform w = (r, w')) :
    Issuing f issuer subject valid distance w w' r := by
  rcases Work.perform_bind_cases h with ⟨spec, w₁, description, rest⟩ | ⟨e, description, rfl⟩
  · cases describing description with
    | described serial now validity spends shows window =>
        have drawn : (specOf issuer subject distance serial validity).serial = serial := rfl
        have flag : (Datum.bool valid).plain = .ok (if valid then "True" else "False") := rfl
        simp only [Work.perform_bind, Work.perform_ofExcept, Work.perform_note, Work.perform_pure, drawn,
          flag] at rest
        cases signing : sign f.digest (specOf issuer subject distance serial validity) (some issuer)
            (some subject) with
        | error e =>
            simp only [signing] at rest
            obtain ⟨rfl, rfl⟩ := Prod.mk.inj rest
            exact .unsigned serial now validity e spends shows window signing
        | ok c =>
            have builds := sign_eq_ok.mp signing
            simp only [signing, Datum.plain] at rest
            cases serialText : serial.plain? with
            | none =>
                simp only [serialText] at rest
                obtain ⟨rfl, rfl⟩ := Prod.mk.inj rest
                exact .unwritable serial now validity c spends shows window builds (.inl serialText)
            | some _ =>
                cases distanceText : (Datum.int distance).plain? with
                | none =>
                    simp only [serialText, distanceText] at rest
                    obtain ⟨rfl, rfl⟩ := Prod.mk.inj rest
                    exact .unwritable serial now validity c spends shows window builds (.inr distanceText)
                | some _ =>
                    simp only [serialText, distanceText] at rest
                    obtain ⟨rfl, rfl⟩ := Prod.mk.inj rest
                    exact .issued serial now validity c
                      ⟨spends.keys_eq, spends.serials_eq, spends.readings_eq, spends.clock_eq, spends.maker_eq⟩
                      shows window builds
  · exact .undescribed e (describing description)

end Endings

/-- A certificate that a forge issues when it draws this serial number and the clock shows this
    moment. -/
def IssuedAs (f : Forge) (issuer subject : Rsa.KeyPair) (valid : Bool) (distance : Nat) (serial : Datum)
    (now : Moment) (c : Certificate) : Prop :=
  ∃ validity, Window.ofSettings f.settings valid now = .ok validity ∧
    build f.digest (specOf issuer subject distance serial validity) issuer subject = .ok c

theorem issued_of_issue {f : Forge} {issuer subject : Rsa.KeyPair} {valid : Bool} {distance : Nat}
    {w w' : Workshop} {c : Certificate}
    (h : (f.issue (some issuer) (some subject) (.bool valid) (.int distance)).perform w = (.ok c, w')) :
    ∃ serial now, Spends w w' [] [.ok serial] 1 ∧ w.clock w.readings = some now ∧
      IssuedAs f issuer subject valid distance serial now c := by
  cases issuing h with
  | issued serial now validity _ spends shows window builds =>
      exact ⟨serial, now, spends, shows, validity, window, builds⟩

/-- A certificate that a forge issued, whichever it was. -/
def Issued (c : Certificate) : Prop :=
  ∃ f issuer subject valid distance serial now, IssuedAs f issuer subject valid distance serial now c

namespace IssuedAs

variable {f : Forge} {issuer subject : Rsa.KeyPair} {valid : Bool} {distance : Nat} {serial : Datum}
  {now : Moment} {c : Certificate}

theorem issued (h : IssuedAs f issuer subject valid distance serial now c) : Issued c :=
  ⟨_, _, _, _, _, _, _, h⟩

theorem issuer_eq (h : IssuedAs f issuer subject valid distance serial now c) :
    c.issuer = keyName issuer.publicKey := by
  obtain ⟨_, _, builds⟩ := h
  exact (built_of_build builds).issuer_eq

theorem subject_eq (h : IssuedAs f issuer subject valid distance serial now c) :
    c.subject = keyName subject.publicKey := by
  obtain ⟨_, _, builds⟩ := h
  exact (built_of_build builds).subject_eq

theorem key_eq (h : IssuedAs f issuer subject valid distance serial now c) :
    c.key = some subject.publicKey := by
  obtain ⟨_, _, builds⟩ := h
  exact (built_of_build builds).key_eq

theorem serial_eq (h : IssuedAs f issuer subject valid distance serial now c) :
    serial.int? = some c.serial := by
  obtain ⟨_, _, builds⟩ := h
  exact (built_of_build builds).serial_eq

end IssuedAs

namespace Issued

variable {c : Certificate}

/-- An issued certificate is what its octets are read as. -/
theorem ofDer_eq_ok (h : Issued c) : Certificate.ofDer c.der = .ok c := by
  obtain ⟨_, _, _, _, _, _, _, _, _, builds⟩ := h
  exact ofDer_of_build builds rfl rfl

theorem exists_subject_eq (h : Issued c) :
    ∃ subject issuer, c.subject = keyName subject ∧ c.issuer = keyName issuer := by
  obtain ⟨_, issuer, subject, _, _, _, _, issued⟩ := h
  exact ⟨_, _, issued.subject_eq, issued.issuer_eq⟩

end Issued

theorem drawn_of_generate {s : Settings} {w w' : Workshop} {k : Rsa.KeyPair}
    (h : (generate s).perform w = (.ok k, w')) : Spends w w' [.ok k] [] 0 := by
  cases generating h with
  | drawn _ spends => exact spends

end CertMint.Mint
