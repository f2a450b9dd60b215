import CertMint.Mint.Fixtures
import CertMint.Proofs.Turns

/-! # Sessions

A session is a sequence of calls on facades that share one workshop. Every call keeps a ledger, whether it
succeeds or not, and each call's ledger begins where the one before it ended. So no key and no serial number
is given out twice, and where those in the supplies differ, so do those of the certificates.
-/

namespace CertMint.Mint

open X509

/-! ## Idle work -/

section Idling

variable {α β : Type}

/-- Work that uses nothing up and issues nothing, however it ends. -/
def Idle (work : Work α) : Prop := ∀ w, Idles w (work.perform w).2

namespace Idle

theorem pure (a : α) : Idle (Pure.pure a) := fun w => .refl w

theorem get : Idle MonadState.get := fun w => .refl w

theorem fail (f : Fault) : Idle (Work.fail f : Work α) := fun w => .refl w

theorem ofExcept (r : Except Fault α) : Idle (Work.ofExcept r) := fun w => by
  rw [Work.perform_ofExcept]
  exact .refl w

theorem note {n : Log.Note} (other : n.logger ≠ forgeLogger) : Idle (Work.note n) := fun _ =>
  .of_note ⟨rfl, rfl, rfl, rfl, rfl⟩ rfl other

theorem bind {x : Work α} {f : α → Work β} (first : Idle x) (second : ∀ a, Idle (f a)) :
    Idle (x >>= f) := fun w => by
  have before := first w
  rw [Work.perform_bind]
  rcases run : x.perform w with ⟨_ | a, w₁⟩ <;> rw [run] at before
  · exact before
  · exact before.trans (second a w₁)

theorem wrapping {x : Work α} (h : Idle x) (kinds : Fault.Kind → Bool) (f : Fault → Fault) :
    Idle (Work.wrapping kinds f x) := fun w => by
  have same := h w
  rw [Work.perform_wrapping]
  rcases run : x.perform w with ⟨_ | _, _⟩ <;> rw [run] at same <;> exact same

end Idle

theorem idle_register : Idle register := by
  have other : engineLogger ≠ forgeLogger := by decide
  refine .bind .get fun w => ?_
  split
  · exact .pure _
  · refine .bind (.wrapping (.bind .get fun _ => .ofExcept _) _ _) fun _ => .bind (.note other) fun _ w => ?_
    exact ⟨⟨rfl, rfl, rfl, rfl, rfl⟩, rfl⟩

theorem idle_resolve (name : Datum) : Idle (resolve name) := by
  refine .bind (.ofExcept _) fun _ => .bind (.ofExcept _) fun _ => .bind .get fun _ =>
    .bind (.ofExcept _) fun _ => ?_
  split
  · exact .pure _
  · exact .fail _

theorem idle_wire (s : Settings) (measures : Bool) : Idle (Facade.wire s measures) :=
  .bind (.bind idle_register fun _ => .bind (.bind idle_register fun _ => .bind (idle_resolve _) fun _ =>
    .pure _) fun _ => .pure _) fun _ => .pure _

end Idling

/-! ## Accounts -/

/-- A ledger has been kept, and the certificates that the work ended with, if it ended well, are those in
    the ledger, the last one first. -/
def Accounted (w w' : Workshop) (r : Except Fault (List Certificate)) : Prop :=
  ∃ keys serials readings issues, Ledger w w' keys serials readings issues ∧
    ∀ cs, r = .ok cs → cs = (issues.map (·.certificate)).reverse

namespace Accounted

variable {w w₁ w' : Workshop} {r : Except Fault (List Certificate)}

theorem of_error {e : Fault} {keys : List (Except Fault Rsa.KeyPair)} {serials : List (Except Fault Datum)}
    {readings : Nat} {issues : List Issue} (ledger : Ledger w w' keys serials readings issues) :
    Accounted w w' (.error e) :=
  ⟨keys, serials, readings, issues, ledger, fun _ h => by cases h⟩

theorem idle (h : Accounted w w₁ r) (idles : Idles w₁ w') : Accounted w w' r := by
  obtain ⟨keys, serials, readings, issues, ledger, all⟩ := h
  exact ⟨keys, serials, readings, issues, ledger.idle idles, all⟩

end Accounted

section Calls

variable {b : Builder} {w w' : Workshop}

theorem accounted_chain {invalid : Datum} {r : Except Fault Chain}
    (run : (b.chain invalid).perform w = (r, w')) : Accounted w w' (r.map (·.certificates)) := by
  cases checked : Builder.checkPosition invalid with
  | error e =>
      rw [Builder.chain, Work.perform_bind, Work.perform_ofExcept, checked] at run
      obtain ⟨rfl, rfl⟩ := Prod.mk.inj run
      exact .of_error (.of_idles (.refl w))
  | ok =>
      obtain ⟨r₁, chaining, failed, done⟩ := chaining_of_chain checked run
      cases chaining with
      | stopped j o keys serials issues _ _ _ ledger =>
          obtain rfl := failed _ rfl
          exact .of_error ledger
      | finished keys serials issues _ ledger =>
          obtain ⟨chain, rfl, certificates⟩ := done _ rfl
          exact ⟨keys, serials, _, issues, ledger, fun cs h => (Except.ok.inj h).symm.trans certificates⟩

/-- A certificate is issued for the first key pair that was taken. -/
theorem accounted_issue {f : Forge} {v : Workshop} {issuer subject : Rsa.KeyPair}
    {more : List (Except Fault Rsa.KeyPair)} {valid : Bool} {r : Except Fault Certificate}
    (ledger : Ledger w v (.ok subject :: more) [] 0 [])
    (run : (f.issue (some issuer) (some subject) (.bool valid) (.int 0)).perform v = (r, w')) :
    Accounted w w' (r.map fun c => [c]) := by
  have ledger : Ledger w v (.ok subject :: more) [] ([] : List Issue).length [] := ledger
  have first : (.ok subject :: more)[([] : List Issue).length]? = some (.ok subject) := rfl
  rcases ledger.cases_issue rfl first 0 run with ⟨i, _, rfl, issued⟩ | ⟨o, _, _, rfl, stopped, _⟩
  · exact ⟨_, _, _, _, issued, fun cs h => (Except.ok.inj h).symm⟩
  · exact .of_error stopped

/-- The key pairs and the certificate of a single certificate, before it is noted. -/
theorem accounted_pair {f : Forge} {s : Settings} {valid selfSigned : Bool} {r : Except Fault Certificate}
    {v : Workshop} (before : Idles w v)
    (run : (do
      let subject ← generate s
      let issuer ← if selfSigned then pure subject else generate s
      f.issue (some issuer) (some subject) (.bool valid) (.int 0)).perform v = (r, w')) :
    Accounted w w' (r.map fun c => [c]) := by
  rw [Work.perform_bind] at run
  rcases generation : (generate s).perform v with ⟨r₁, v₁⟩
  rw [generation] at run
  rcases (Ledger.of_idles before).cases_generate generation with
    ⟨subject, _, rfl, ledger⟩ | ⟨o, _, _, rfl, ledger, _⟩
  · cases selfSigned with
    | true => exact accounted_issue ledger run
    | false =>
        dsimp only at run
        rw [if_neg Bool.false_ne_true, Work.perform_bind] at run
        rcases generation' : (generate s).perform v₁ with ⟨r₂, v₂⟩
        rw [generation'] at run
        rcases ledger.cases_generate generation' with ⟨issuer, _, rfl, both⟩ | ⟨o, _, _, rfl, first, _⟩
        · exact accounted_issue both run
        · obtain ⟨rfl, rfl⟩ := Prod.mk.inj run
          exact .of_error first
  · obtain ⟨rfl, rfl⟩ := Prod.mk.inj run
    exact .of_error ledger

theorem accounted_single {valid selfSigned : Bool} {r : Except Fault Certificate}
    (run : (b.single (.bool valid) (.bool selfSigned)).perform w = (r, w')) :
    Accounted w w' (r.map fun c => [c]) := by
  rw [Builder.single, Work.perform_bind] at run
  rcases measured : (measuredIf b.measures "build_single_certificate"
      [("is_valid", .bool valid), ("is_self_signed", .bool selfSigned)] (do
    let subject ← generate b.settings
    let issuer ← if (Datum.bool selfSigned).truthy then pure subject else generate b.settings
    b.forge.issue (some issuer) (some subject) (.bool valid) (.int 0))).perform w with ⟨r₂, w₂⟩
  rw [measured] at run
  obtain ⟨v, v', work, before, after⟩ := exists_of_measuredIf measured
  have accounted := (accounted_pair before work).idle after
  cases r₂ with
  | error e =>
      obtain ⟨rfl, rfl⟩ := Prod.mk.inj run
      exact accounted
  | ok c =>
      obtain ⟨rfl, rfl⟩ := Prod.mk.inj run
      have other : chainLogger ≠ forgeLogger := by decide
      exact accounted.idle (.of_note ⟨rfl, rfl, rfl, rfl, rfl⟩ rfl other)

theorem accounted_map {α : Type} {work : Work α} {g : α → Fixture} {certificates : α → List Certificate}
    {r : Except Fault Fixture} (same : ∀ a, (g a).certificates = certificates a)
    (accounted : ∀ r w', work.perform w = (r, w') → Accounted w w' (r.map certificates))
    (run : (g <$> work).perform w = (r, w')) : Accounted w w' (r.map (·.certificates)) := by
  rw [map_eq_pure_bind, Work.perform_bind] at run
  rcases ended : work.perform w with ⟨e | a, w₁⟩
  · rw [ended] at run
    obtain ⟨rfl, rfl⟩ := Prod.mk.inj run
    exact accounted _ _ ended
  · rw [ended] at run
    obtain ⟨rfl, rfl⟩ := Prod.mk.inj run
    have all := accounted _ _ ended
    rw [Except.map, ← same] at all
    exact all

theorem accounted_fixture {scenario : Scenario} {r : Except Fault Fixture}
    (run : (b.fixture scenario).perform w = (r, w')) : Accounted w w' (r.map (·.certificates)) := by
  cases scenario with
  | validChain | expiredIntermediateChain | expiredRootChain =>
      exact accounted_map (fun _ => rfl) (fun _ _ => accounted_chain) run
  | valid | expired | selfSigned | expiredSelfSigned =>
      exact accounted_map (fun _ => rfl) (fun _ _ => accounted_single) run

end Calls

/-! ## Sessions -/

/-- A call in a session. Every facade draws on the same workshop. -/
inductive Call where
  | generate (f : Facade) (s : Scenario)
  /-- A fixture is made with a facade of its own. -/
  | fresh (settings : Settings) (s : Scenario)
  | chain (f : Facade) (invalid : Datum)
  | single (f : Facade) (valid selfSigned : Bool)

namespace Call

def work : Call → Work Fixture
  | .generate f s => f.generate s
  | .fresh settings s => Mint.fresh settings s
  | .chain f invalid => .chain <$> f.builder.chain invalid
  | .single f valid selfSigned => .certificate <$> f.builder.single (.bool valid) (.bool selfSigned)

/-- The results of calls, one after the other, and the workshop that they leave. -/
def performAll : List Call → Workshop → List (Except Fault Fixture) × Workshop
  | [], w => ([], w)
  | c :: calls, w =>
    let (r, w₁) := c.work.perform w
    let (rs, w') := performAll calls w₁
    (r :: rs, w')

end Call

theorem accounted_work {c : Call} {w w' : Workshop} {r : Except Fault Fixture}
    (run : c.work.perform w = (r, w')) : Accounted w w' (r.map (·.certificates)) := by
  cases c with
  | generate f s => exact accounted_fixture run
  | fresh settings s =>
      have idle := idle_wire settings false w
      rcases Work.perform_bind_cases run with ⟨f, w₁, wired, made⟩ | ⟨e, unwired, rfl⟩
      · rw [wired] at idle
        obtain ⟨keys, serials, readings, issues, ledger, all⟩ := accounted_fixture made
        exact ⟨keys, serials, readings, issues, .after_idle idle ledger, all⟩
      · rw [unwired] at idle
        exact .of_error (.of_idles idle)
  | chain f invalid => exact accounted_map (fun _ => rfl) (fun _ _ => accounted_chain) run
  | single f valid selfSigned => exact accounted_map (fun _ => rfl) (fun _ _ => accounted_single) run

/-- What a call came to, and its ledger. -/
structure Outcome where
  result : Except Fault Fixture
  /-- What was taken from the supplies, in order. -/
  keys : List (Except Fault Rsa.KeyPair)
  serials : List (Except Fault Datum)
  readings : Nat
  issues : List Issue

/-- The outcomes of calls that were made one after the other. -/
inductive Session : Workshop → List Call → List Outcome → Workshop → Prop where
  | done (w : Workshop) : Session w [] [] w
  | call {w w₁ w' : Workshop} {c : Call} {calls : List Call} {o : Outcome} {outcomes : List Outcome}
      (ran : c.work.perform w = (o.result, w₁))
      (ledger : Ledger w w₁ o.keys o.serials o.readings o.issues)
      (returned : ∀ fixture, o.result = .ok fixture →
        fixture.certificates = (o.issues.map (·.certificate)).reverse)
      (rest : Session w₁ calls outcomes w') : Session w (c :: calls) (o :: outcomes) w'

theorem exists_session (calls : List Call) (w : Workshop) :
    ∃ outcomes, Session w calls outcomes (Call.performAll calls w).2 ∧
      (Call.performAll calls w).1 = outcomes.map (·.result) := by
  induction calls generalizing w with
  | nil => exact ⟨[], .done w, rfl⟩
  | cons c calls ih =>
      rcases ran : c.work.perform w with ⟨r, w₁⟩
      obtain ⟨outcomes, rest, results⟩ := ih w₁
      obtain ⟨keys, serials, readings, issues, ledger, all⟩ := accounted_work ran
      refine ⟨⟨r, keys, serials, readings, issues⟩ :: outcomes, ?_, ?_⟩
      · rw [Call.performAll, ran]
        -- the ledger of this call ends where that of the next one begins
        exact .call ran ledger (fun fixture h => all _ (by rw [show r = .ok fixture from h]; rfl)) rest
      · rw [Call.performAll, ran]
        exact congrArg (r :: ·) results

/-- What the ledgers of all calls in a session come to. -/
structure Totals (w w' : Workshop) (outcomes : List Outcome) : Prop where
  keys_eq : w.keys = outcomes.flatMap (·.keys) ++ w'.keys
  serials_eq : w.serials = outcomes.flatMap (·.serials) ++ w'.serials
  issueNotes_eq : issueNotes w' = issueNotes w ++ (outcomes.flatMap (·.issues)).map Issue.note
  subjects : ((outcomes.flatMap (·.issues)).map (.ok ·.subject)).Sublist (outcomes.flatMap (·.keys))
  numbers : ((outcomes.flatMap (·.issues)).map (.ok ·.serial)).Sublist (outcomes.flatMap (·.serials))
  carries : ∀ i ∈ outcomes.flatMap (·.issues), i.Carries

theorem totals_of_session {w w' : Workshop} {calls : List Call} {outcomes : List Outcome}
    (h : Session w calls outcomes w') : Totals w w' outcomes := by
  induction h with
  | done w =>
      exact ⟨rfl, rfl, (List.append_nil _).symm, .slnil, .slnil, fun i member => by cases member⟩
  | call ran ledger returned rest ih =>
      constructor
      case keys_eq => rw [List.flatMap_cons, List.append_assoc, ← ih.keys_eq, ledger.keys_eq]
      case serials_eq => rw [List.flatMap_cons, List.append_assoc, ← ih.serials_eq, ledger.serials_eq]
      case issueNotes_eq =>
        rw [ih.issueNotes_eq, ledger.issueNotes_eq, List.flatMap_cons, List.map_append, List.append_assoc]
      case subjects =>
        rw [List.flatMap_cons, List.flatMap_cons, List.map_append]
        exact ledger.subjects.sublist.append ih.subjects
      case numbers =>
        rw [List.flatMap_cons, List.flatMap_cons, List.map_append]
        exact ledger.numbers.sublist.append ih.numbers
      case carries =>
        intro i member
        rw [List.flatMap_cons] at member
        exact (List.mem_append.mp member).elim (ledger.carries i) (ih.carries i)

/-! ## Freshness -/

/-- The integers among what a supply of serial numbers gives. -/
def integersOf (serials : List (Except Fault Datum)) : List Int :=
  serials.filterMap fun drawn => drawn.toOption.bind Datum.int?

/-- The names derived from what a supply of keys gives. -/
def namesOf (keys : List (Except Fault Rsa.KeyPair)) : List Name :=
  keys.filterMap fun drawn => drawn.toOption.map fun k => keyName k.publicKey

/-- What is read of some entries of a supply is different if all that is read of the supply is. -/
theorem nodup_of_sublist {α β γ : Type} {items : List α} {supply : List β} {entry : α → β}
    {read : β → Option γ} {stated : α → γ} (taken : (items.map entry).Sublist supply)
    (reads : ∀ i ∈ items, read (entry i) = some (stated i)) (distinct : (supply.filterMap read).Nodup) :
    (items.map stated).Nodup := by
  have all : (items.map entry).filterMap read = items.map stated := by
    rw [List.filterMap_map, ← List.filterMap_eq_map]
    exact List.filterMap_congr reads
  rw [← all]
  exact distinct.sublist (taken.filterMap read)

/-- In a session, whichever of its calls fail, keys and serial numbers are taken strictly in the order of the
    supplies, and each entry by one call at most. Each call issues its certificates with the serial numbers
    that it took, one after the other, and for the keys that it took; the forge's notes show that there are
    no others. So if the supplied integers are different no two certificates of the session have the same
    serial number, and if the names derived from the supplied keys are different no two have the same
    subject. -/
theorem fresh_of_session {calls : List Call} {w w' : Workshop} {results : List (Except Fault Fixture)}
    (run : Call.performAll calls w = (results, w')) :
    ∃ outcomes, Session w calls outcomes w' ∧ results = outcomes.map (·.result) ∧
      w.keys = outcomes.flatMap (·.keys) ++ w'.keys ∧
      w.serials = outcomes.flatMap (·.serials) ++ w'.serials ∧
      issueNotes w' = issueNotes w ++ (outcomes.flatMap (·.issues)).map Issue.note ∧
      ((integersOf w.serials).Nodup →
        ((outcomes.flatMap (·.issues)).map (·.certificate.serial)).Nodup) ∧
      ((namesOf w.keys).Nodup →
        ((outcomes.flatMap (·.issues)).map (·.certificate.subject)).Nodup) := by
  obtain ⟨outcomes, session, same⟩ := exists_session calls w
  rw [run] at session same
  have totals := totals_of_session session
  refine ⟨outcomes, session, same, totals.keys_eq, totals.serials_eq, totals.issueNotes_eq,
    fun distinct => ?_, fun distinct => ?_⟩
  · rw [totals.serials_eq] at distinct
    -- what was issued is a part of what was taken, and that is a part of what was supplied
    have taken := totals.numbers.trans (List.sublist_append_left _ w'.serials)
    exact nodup_of_sublist taken (fun i member => (totals.carries i member).serial) distinct
  · rw [totals.keys_eq] at distinct
    have taken := totals.subjects.trans (List.sublist_append_left _ w'.keys)
    exact nodup_of_sublist taken
      (fun i member => congrArg some (totals.carries i member).subject.symm) distinct

/-! ### A session with a failure -/

def defaultFacade : Facade := ⟨{}, .sha256, false⟩

/-- A workshop with two different key pairs, one that cannot be made between them, and two serial numbers. -/
def pairedWorkshop : Workshop :=
  { stockedWorkshop with
    keys := [.ok Rsa.mersennePair, .error (.of .value "engine refused"),
      .ok { Rsa.mersennePair with exponent := 3 }]
    serials := [.ok (.int 1), .ok (.int 2)] }

def pairedCalls : List Call := List.replicate 3 (.single defaultFacade true true)

theorem results_paired : (Call.performAll pairedCalls pairedWorkshop).1.map
    (fun r => r.toOption.map fun x => x.certificates.map (·.serial)) = [some [1], none, some [2]] := by
  decide +kernel

theorem distinct_paired : (integersOf pairedWorkshop.serials).Nodup ∧
    (namesOf pairedWorkshop.keys).Nodup := by
  decide +kernel

/-- The second call fails; the certificates of the first and of the third have different serial numbers and
    different subjects. -/
theorem fresh_of_session_paired :
    ∃ outcomes w', Session pairedWorkshop pairedCalls outcomes w' ∧
      outcomes.map (fun o => o.result.toOption.map fun x => x.certificates.map (·.serial)) =
        [some [1], none, some [2]] ∧
      ((outcomes.flatMap (·.issues)).map (·.certificate.serial)).Nodup ∧
      ((outcomes.flatMap (·.issues)).map (·.certificate.subject)).Nodup := by
  have results := results_paired
  rcases run : Call.performAll pairedCalls pairedWorkshop with ⟨rs, w'⟩
  obtain ⟨outcomes, session, same, _, _, _, serials, subjects⟩ := fresh_of_session run
  obtain ⟨integers, names⟩ := distinct_paired
  rw [run, same, List.map_map] at results
  exact ⟨outcomes, w', session, results, serials integers, subjects names⟩

end CertMint.Mint
