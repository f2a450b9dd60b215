import CertMint.Proofs.Ledger
import CertMint.Proofs.Success

/-! # Obstacles

A certificate is minted in a turn of its own, for which a key pair is made, a serial number drawn, the
clock read, and the certificate signed. What stops a turn, if anything does, can be told from the entries
of the supplies that are next; it also tells how many of them are used up, and with which fault the work
ends.
-/

namespace CertMint.Mint

open X509

/-! ## Obstacles -/

/-- What stops a turn, by the step that it stops. A draw is stopped after or before it took an entry from its
    supply. -/
inductive Obstacle where
  /-- The engine makes no key pair. -/
  | key (raised : Fault) (took : Bool)
  | serial (raised : Fault) (took : Bool)
  /-- The settings have no window as of now. -/
  | window (raised : Fault)
  /-- The engine does not sign. -/
  | signature (raised : Fault)

namespace Obstacle

def raised : Obstacle → Fault
  | .key f _ | .serial f _ | .window f | .signature f => f

/-- The operation that the engine was asked for, if it was asked for one. -/
def operation? : Obstacle → Option String
  | .key _ _ => some "key generation"
  | .signature _ => some "certificate signing"
  | .serial _ _ | .window _ => none

def reported (o : Obstacle) : Fault :=
  match o.operation? with
  | some operation => if isEngineFault o.raised.kind then o.raised.asFailure operation else o.raised
  | none => o.raised

/-! What so many turns and the one that is stopped after them have used up. -/

def keys (turn : Nat) : Obstacle → Nat
  | .key _ took => turn + took.toNat
  | .serial _ _ | .window _ | .signature _ => turn + 1

def serials (turn : Nat) : Obstacle → Nat
  | .key _ _ => turn
  | .serial _ took => turn + took.toNat
  | .window _ | .signature _ => turn + 1

def readings (turn : Nat) : Obstacle → Nat
  | .key _ _ | .serial _ _ => turn
  | .window _ | .signature _ => turn + 1

/-- The faults that an obstacle ends a chain with. -/
inductive Leaves (o : Obstacle) : Fault → Prop where
  /-- The engine was at fault. The failure of the operation quotes the fault and has it as its cause. -/
  | failed {operation : String} (asked : o.operation? = some operation)
      (engine : isEngineFault o.raised.kind = true) :
      o.Leaves (.because (.operationFailed (.text operation))
        (operation ++ " failed: " ++ o.raised.message) o.raised true)
  /-- The engine was not asked, or its fault was none of an engine. -/
  | unchanged (other : o.operation? = none ∨ isEngineFault o.raised.kind = false) : o.Leaves o.raised

theorem leaves_reported (o : Obstacle) : o.Leaves o.reported := by
  unfold reported
  split
  · next operation asked =>
      split
      · next engine => exact .failed asked engine
      · next other => exact .unchanged (.inr (Bool.eq_false_iff.mpr other))
  · next unasked => exact .unchanged (.inl unasked)

end Obstacle

/-! ## What turns come to -/

/-- The key pair that is made in a turn, or what stops it. -/
def keyAt (s : Settings) (w : Workshop) (turn : Nat) : Except Obstacle Rsa.KeyPair :=
  match checkRequest w.maker s.keySize s.publicExponent, w.keys[turn]? with
  | .error f, _ => .error (.key f false)
  | .ok (), none => .error (.key (.of .value "out of keys") false)
  | .ok (), some (.error f) => .error (.key f true)
  | .ok (), some (.ok k) => .ok k

/-- The certificate for a serial number and what the clock shows, or what stops it. -/
def certificateFor (f : Forge) (issuer subject : Rsa.KeyPair) (valid : Bool) (distance : Nat)
    (serial : Datum) (shown : Option Moment) : Except Obstacle Certificate :=
  match shown with
  | none => .error (.window Work.outOfYears)
  | some now =>
    match Window.ofSettings f.settings valid now with
    | .error e => .error (.window e)
    | .ok window =>
      (build f.digest (specOf issuer subject distance serial window) issuer subject).mapError .signature

/-- The certificate that is issued in a turn, or what stops it. -/
def certificateAt (f : Forge) (w : Workshop) (turn : Nat) (issuer subject : Rsa.KeyPair) (valid : Bool)
    (distance : Nat) : Except Obstacle Certificate :=
  match w.serials[turn]? with
  | none => .error (.serial (.of .runtime "out of serials") false)
  | some (.error e) => .error (.serial e true)
  | some (.ok serial) =>
    certificateFor f issuer subject valid distance serial (w.clock (w.readings + turn))

/-- What a drawn serial number and a reading come to: a certificate that carries the number, or an obstacle
    that was met after both were taken. -/
theorem certificateFor_cases (f : Forge) (issuer subject : Rsa.KeyPair) (valid : Bool) (distance : Nat)
    (serial : Datum) (shown : Option Moment) :
    (∃ c, certificateFor f issuer subject valid distance serial shown = .ok c ∧
      Issue.Carries ⟨subject, serial, valid, distance, c⟩) ∨
    ∃ o, certificateFor f issuer subject valid distance serial shown = .error o ∧
      ∀ turn, o.keys turn = turn + 1 ∧ o.serials turn = turn + 1 ∧ o.readings turn = turn + 1 := by
  unfold certificateFor
  split
  · exact .inr ⟨_, rfl, fun _ => ⟨rfl, rfl, rfl⟩⟩
  · split
    · exact .inr ⟨_, rfl, fun _ => ⟨rfl, rfl, rfl⟩⟩
    · next window _ =>
        cases building : build f.digest (specOf issuer subject distance serial window) issuer subject with
        | error => exact .inr ⟨_, rfl, fun _ => ⟨rfl, rfl, rfl⟩⟩
        | ok c =>
            have built := built_of_build building
            exact .inl ⟨c, rfl, built.subject_eq, built.serial_eq⟩

/-! ## Steps of a turn -/

theorem asSigning_error {α : Type} (f : Fault) :
    asSigning (.error f : Except Fault α) = .error (Obstacle.signature f).reported :=
  (apply_ite Except.error _ _ _).symm

/-- Issuing a certificate: a serial number is drawn, the clock is read, and what the certificate comes to
    then is noted if it is issued. -/
theorem perform_issue (f : Forge) (issuer subject : Rsa.KeyPair) (valid : Bool) (distance : Nat)
    (w : Workshop) :
    (f.issue (some issuer) (some subject) (.bool valid) (.int distance)).perform w =
      match w.serials with
      | [] => (.error (.of .runtime "out of serials"), w)
      | .error e :: rest => (.error e, { w with serials := rest })
      | .ok serial :: rest =>
        match certificateFor f issuer subject valid distance serial (w.clock w.readings) with
        | .error o => (.error o.reported, { w with serials := rest, readings := w.readings + 1 })
        | .ok c => (.ok c, { w with
            serials := rest
            readings := w.readings + 1
            notes := w.notes ++ [Issue.note ⟨subject, serial, valid, distance, c⟩] }) := by
  have flag : (Datum.bool valid).plain = .ok (if valid then "True" else "False") := rfl
  rw [Forge.issue, Work.perform_bind, perform_describe, Work.perform_drawSerial]
  rcases w.serials with _ | ⟨_ | serial, rest⟩
  · rfl
  · rfl
  simp only [Work.perform_readClock, certificateFor]
  cases w.clock w.readings with
  | none => rfl
  | some now =>
      dsimp only
      cases Window.ofSettings f.settings valid now with
      | error => rfl
      | ok window =>
          have drawn : (specOf issuer subject distance serial window).serial = serial := rfl
          have signing : sign f.digest (specOf issuer subject distance serial window) (some issuer)
            (some subject) = asSigning (build f.digest (specOf issuer subject distance serial window)
              issuer subject) := rfl
          simp only [Except.map, Work.perform_bind, Work.perform_ofExcept, Work.perform_note,
            Work.perform_pure, drawn, flag, signing]
          cases built : build f.digest (specOf issuer subject distance serial window) issuer subject with
          | error => simp only [asSigning_error, Except.mapError]
          | ok c =>
              obtain ⟨⟨serialText, writes⟩, distanceText, writes'⟩ := exists_plain?_of_build built
              simp only [asSigning, Except.mapError, Datum.plain, writes, writes', Issue.note,
                Option.getD_some]
              rfl

/-! ## Steps in a ledger -/

section Steps

variable {w v v' : Workshop} {keys : List (Except Fault Rsa.KeyPair)} {serials : List (Except Fault Datum)}
  {readings : Nat} {issues : List Issue}

theorem Ledger.getElem?_keys (ledger : Ledger w v keys serials readings issues) :
    w.keys[keys.length]? = v.keys[0]? := by
  rw [ledger.keys_eq, List.getElem?_append_right (Nat.le_refl _), Nat.sub_self]

theorem Ledger.getElem?_serials (ledger : Ledger w v keys serials readings issues) :
    w.serials[serials.length]? = v.serials[0]? := by
  rw [ledger.serials_eq, List.getElem?_append_right (Nat.le_refl _), Nat.sub_self]

/-- The next key pair is made, or what stops that takes no more than an entry from the supply. -/
theorem Ledger.cases_generate {s : Settings} {r : Except Fault Rsa.KeyPair}
    (ledger : Ledger w v keys serials readings issues) (run : (generate s).perform v = (r, v')) :
    (∃ k, keyAt s w keys.length = .ok k ∧ r = .ok k ∧
      Ledger w v' (keys ++ [.ok k]) serials readings issues) ∨
    ∃ o drawn, keyAt s w keys.length = .error o ∧ r = .error o.reported ∧
      Ledger w v' (keys ++ drawn) serials readings issues ∧ (keys ++ drawn).length = o.keys keys.length ∧
      o.serials keys.length = keys.length ∧ o.readings keys.length = keys.length := by
  have draw {drawn : List (Except Fault Rsa.KeyPair)} {v₁ : Workshop} (spends : Spends v v₁ drawn [] 0)
      (notes : issueNotes v₁ = issueNotes v) :
      Ledger w v₁ (keys ++ drawn) serials readings issues := by
    have all := ledger.spend spends notes
    rwa [List.append_nil, Nat.add_zero] at all
  have next := ledger.getElem?_keys
  have maker : w.maker = v.maker := ledger.maker_eq.symm
  rw [perform_generate] at run
  split at run <;> obtain ⟨rfl, rfl⟩ := Prod.mk.inj run
  · next f refusal =>
      refine .inr ⟨.key f false, [], ?_, rfl, draw (.mk rfl rfl rfl rfl rfl) rfl, ?_, rfl, rfl⟩
      · simp only [keyAt, maker, refusal]
      · rw [List.append_nil]
        rfl
  · next accepts supply =>
      rw [supply] at next
      refine .inr ⟨.key (.of .value "out of keys") false, [], ?_, rfl, draw (.mk rfl rfl rfl rfl rfl) rfl, ?_,
        rfl, rfl⟩
      · simp only [keyAt, maker, accepts, next, List.getElem?_nil]
      · rw [List.append_nil]
        rfl
  · next f rest accepts supply =>
      rw [supply] at next
      refine .inr ⟨.key f true, [.error f], ?_, rfl, draw ⟨supply, rfl, rfl, rfl, rfl⟩ rfl, ?_, rfl, rfl⟩
      · simp only [keyAt, maker, accepts, next, List.getElem?_cons_zero]
      · rw [List.length_append]
        rfl
  · next k rest accepts supply =>
      rw [supply] at next
      have other : keyLogger ≠ forgeLogger := by decide
      refine .inl ⟨k, ?_, rfl, draw ⟨supply, rfl, rfl, rfl, rfl⟩ (issueNotes_of_note rfl other)⟩
      simp only [keyAt, maker, accepts, next, List.getElem?_cons_zero]

/-- The next certificate is issued, or what stops that takes no more than an entry from the supply of
    serial numbers and a reading of the clock. -/
theorem Ledger.cases_issue {f : Forge} {issuer subject : Rsa.KeyPair} {valid : Bool}
    {r : Except Fault Certificate} (ledger : Ledger w v keys serials issues.length issues)
    (serialAt : serials.length = issues.length) (subjectAt : keys[issues.length]? = some (.ok subject))
    (distance : Nat)
    (run : (f.issue (some issuer) (some subject) (.bool valid) (.int distance)).perform v = (r, v')) :
    (∃ i, certificateAt f w issues.length issuer subject valid distance = .ok i.certificate ∧
      r = .ok i.certificate ∧
      Ledger w v' keys (serials ++ [.ok i.serial]) (issues.length + 1) (issues ++ [i])) ∨
    ∃ o drawn, certificateAt f w issues.length issuer subject valid distance = .error o ∧
      r = .error o.reported ∧ Ledger w v' keys (serials ++ drawn) (o.readings issues.length) issues ∧
      (serials ++ drawn).length = o.serials issues.length ∧
      o.keys issues.length = issues.length + 1 := by
  have draw {drawn : List (Except Fault Datum)} {v₁ : Workshop} (readings : Nat)
      (spends : Spends v v₁ [] drawn readings) (notes : issueNotes v₁ = issueNotes v) :
      Ledger w v₁ keys (serials ++ drawn) (issues.length + readings) issues := by
    have all := ledger.spend spends notes
    rwa [List.append_nil] at all
  have shows : w.clock (w.readings + issues.length) = v.clock v.readings := by
    rw [ledger.clock_eq, ledger.readings_eq]
  have next : w.serials[issues.length]? = v.serials[0]? := by rw [← serialAt, ledger.getElem?_serials]
  simp only [certificateAt, next, shows]
  rw [perform_issue] at run
  cases supply : v.serials with
  | nil =>
      simp only [supply] at run
      obtain ⟨rfl, rfl⟩ := Prod.mk.inj run
      refine .inr ⟨.serial _ false, [], rfl, rfl, draw 0 (.nothing v) rfl, ?_, rfl⟩
      rw [List.append_nil, serialAt]
      rfl
  | cons drawn rest =>
      cases drawn with
      | error e =>
          simp only [supply] at run
          obtain ⟨rfl, rfl⟩ := Prod.mk.inj run
          refine .inr ⟨.serial e true, [.error e], rfl, rfl, draw 0 ⟨rfl, supply, rfl, rfl, rfl⟩ rfl, ?_, rfl⟩
          rw [List.length_append, serialAt]
          rfl
      | ok serial =>
          simp only [supply, List.getElem?_cons_zero] at run ⊢
          rcases certificateFor_cases f issuer subject valid distance serial (v.clock v.readings) with
            ⟨c, certificate, carries⟩ | ⟨o, certificate, counts⟩
          · simp only [certificate] at run ⊢
            obtain ⟨rfl, rfl⟩ := Prod.mk.inj run
            have noted {n : Log.Note} (same : n.logger = forgeLogger) :
                (v.notes ++ [n]).filter (·.logger == forgeLogger) = issueNotes v ++ [n] := by
              simp [issueNotes, same]
            exact .inl ⟨⟨subject, serial, valid, distance, c⟩, rfl, rfl,
              ledger.issue ⟨rfl, supply, rfl, rfl, rfl⟩ (noted rfl) subjectAt serialAt carries⟩
          · simp only [certificate] at run ⊢
            obtain ⟨rfl, rfl⟩ := Prod.mk.inj run
            obtain ⟨keys, serials, readings⟩ := counts issues.length
            refine .inr ⟨o, [.ok serial], rfl, rfl, ?_, ?_, keys⟩
            · rw [readings]
              exact draw 1 ⟨rfl, supply, rfl, rfl, rfl⟩ rfl
            · rw [List.length_append, serialAt, serials]
              rfl

end Steps

end CertMint.Mint
