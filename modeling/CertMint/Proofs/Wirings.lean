import CertMint.Proofs.Obstacles
import CertMint.Proofs.Registration
import Mathlib.Data.List.DropRight

/-! # What a change of settings reaches

The settings of a facade may be changed while it is in use. Its keys are asked for with the size and the
exponent that the settings have at that moment, and its windows are reckoned from the days that they have
then. The digest under its signatures is the one that was found when the facade was wired last.

`Obeys` says of two states of a workshop that everything between them was asked for and issued in this way
with given settings and a given digest. It composes, so each piece of work has it from its steps.
-/

namespace CertMint.Mint

open X509

/-! ## Drafts -/

/-- What goes into a certificate: the key pairs, what was asked for, and what was drawn and shown. -/
structure Draft where
  issuer : Rsa.KeyPair
  subject : Rsa.KeyPair
  valid : Bool
  distance : Nat
  serial : Datum
  /-- What the clock showed. -/
  shown : Option Moment

def Draft.issue? (f : Forge) (d : Draft) : Option Issue :=
  (certificateFor f d.issuer d.subject d.valid d.distance d.serial d.shown).toOption.map
    fun c => ⟨d.subject, d.serial, d.valid, d.distance, c⟩

def issuesOf (f : Forge) (drafts : List Draft) : List Issue := drafts.filterMap (Draft.issue? f)

def certificatesOf (f : Forge) (drafts : List Draft) : List Certificate :=
  (issuesOf f drafts).map (·.certificate)

theorem certificatesOf_append (f : Forge) (drafts drafts' : List Draft) :
    certificatesOf f (drafts ++ drafts') = certificatesOf f drafts ++ certificatesOf f drafts' := by
  rw [certificatesOf, issuesOf, List.filterMap_append, List.map_append]
  rfl

/-- An issue's window is that of the settings as of what the clock showed, and its signature is over the
    digest. -/
def Issue.Follows (s : Settings) (digest : Digest.Algorithm) (i : Issue) (now : Moment) : Prop :=
  ∃ issuer window, Window.ofSettings s i.valid now = .ok window ∧
    Built digest (specOf issuer i.subject i.distance i.serial window) issuer i.subject i.certificate

theorem issuedAs_of_certificateFor {f : Forge} {issuer subject : Rsa.KeyPair} {valid : Bool}
    {distance : Nat} {serial : Datum} {shown : Option Moment} {c : Certificate}
    (made : certificateFor f issuer subject valid distance serial shown = .ok c) :
    ∃ now, shown = some now ∧ IssuedAs f issuer subject valid distance serial now c := by
  unfold certificateFor at made
  split at made
  · cases made
  · next now =>
      split at made
      · cases made
      · next window opened =>
          refine ⟨now, rfl, window, opened, ?_⟩
          cases building : build f.digest (specOf issuer subject distance serial window) issuer subject with
          | error => rw [building] at made; cases made
          | ok => rw [building] at made; rw [Except.ok.inj made]

theorem Draft.exists_of_issue? {s : Settings} {digest : Digest.Algorithm} {d : Draft} {i : Issue}
    (issued : d.issue? ⟨s, digest⟩ = some i) : ∃ now, d.shown = some now ∧ i.Follows s digest now := by
  obtain ⟨c, outcome, rfl⟩ := Option.map_eq_some_iff.mp issued
  cases made : certificateFor ⟨s, digest⟩ d.issuer d.subject d.valid d.distance d.serial d.shown with
  | error o =>
      rw [made] at outcome
      cases outcome
  | ok c' =>
      rw [made] at outcome
      obtain rfl : c' = c := Option.some.inj outcome
      obtain ⟨now, shown, window, opened, builds⟩ := issuedAs_of_certificateFor made
      exact ⟨now, shown, d.issuer, window, opened, built_of_build builds⟩

/-! ## What is asked for and issued -/

/-- Between two states of a workshop so many key pairs were asked for, with the size and the exponent of the
    settings, and no other was taken. The clock was read once for each draft, and the certificates of the
    drafts, with the windows of the settings and signatures over the digest, are all that was issued. -/
structure Obeys (s : Settings) (digest : Digest.Algorithm) (w w' : Workshop) (requests : Nat)
    (drafts : List Draft) : Prop where
  requests_eq : w'.requests = w.requests ++ List.replicate requests (s.keySize, s.publicExponent)
  keys : ∃ taken, w.keys = taken ++ w'.keys ∧ taken.length ≤ requests
  clock_eq : w'.clock = w.clock
  readings_eq : w'.readings = w.readings + drafts.length
  shown : ∀ k d, drafts[k]? = some d → d.shown = w.clock (w.readings + k)
  issueNotes_eq : issueNotes w' = issueNotes w ++ (issuesOf ⟨s, digest⟩ drafts).map Issue.note

namespace Obeys

variable {s : Settings} {digest : Digest.Algorithm} {w w₁ w' : Workshop} {requests requests' : Nat}
  {drafts drafts' : List Draft}

/-- Nothing was asked for and nothing was issued. Serial numbers may have been drawn. -/
theorem of_same (requests : w'.requests = w.requests) (keys : w'.keys = w.keys)
    (clock : w'.clock = w.clock) (readings : w'.readings = w.readings)
    (notes : issueNotes w' = issueNotes w) : Obeys s digest w w' 0 [] where
  requests_eq := requests.trans (List.append_nil _).symm
  keys := ⟨[], keys.symm, Nat.le_refl _⟩
  clock_eq := clock
  readings_eq := readings
  shown _ _ no := nomatch no
  issueNotes_eq := notes.trans (List.append_nil _).symm

theorem of_idles (idles : Idles w w') (same : w'.requests = w.requests) : Obeys s digest w w' 0 [] :=
  of_same same idles.keys_eq.symm idles.clock_eq idles.readings_eq idles.issueNotes_eq

theorem refl (w : Workshop) : Obeys s digest w w 0 [] := of_idles (.refl w) rfl

/-- The clock was read for a certificate, whether or not it was issued then. -/
theorem of_draft (d : Draft) (requests : w'.requests = w.requests) (keys : w'.keys = w.keys)
    (clock : w'.clock = w.clock) (readings : w'.readings = w.readings + 1)
    (shown : d.shown = w.clock w.readings)
    (notes : issueNotes w' = issueNotes w ++ ((d.issue? ⟨s, digest⟩).map Issue.note).toList) :
    Obeys s digest w w' 0 [d] where
  requests_eq := requests.trans (List.append_nil _).symm
  keys := ⟨[], keys.symm, Nat.le_refl _⟩
  clock_eq := clock
  readings_eq := readings
  shown k d' entry := by
    cases k with
    | zero => rw [← Option.some.inj entry, shown, Nat.add_zero]
    | succ k => cases entry
  issueNotes_eq := by
    rw [notes, issuesOf, List.filterMap_cons]
    cases d.issue? ⟨s, digest⟩ <;> rfl

theorem trans (h : Obeys s digest w w₁ requests drafts) (h' : Obeys s digest w₁ w' requests' drafts') :
    Obeys s digest w w' (requests + requests') (drafts ++ drafts') where
  requests_eq := by
    rw [h'.requests_eq, h.requests_eq, List.append_assoc, List.replicate_append_replicate]
  keys := by
    obtain ⟨taken, eq, few⟩ := h.keys
    obtain ⟨taken', eq', few'⟩ := h'.keys
    refine ⟨taken ++ taken', by rw [eq, eq', List.append_assoc], ?_⟩
    rw [List.length_append]
    exact Nat.add_le_add few few'
  clock_eq := h'.clock_eq.trans h.clock_eq
  readings_eq := by rw [h'.readings_eq, h.readings_eq, List.length_append, Nat.add_assoc]
  shown k d entry := by
    by_cases early : k < drafts.length
    · rw [List.getElem?_append_left early] at entry
      exact h.shown k d entry
    · obtain ⟨k', rfl⟩ := Nat.exists_eq_add_of_le (Nat.not_lt.mp early)
      rw [List.getElem?_append_right (Nat.le_add_right _ _), Nat.add_sub_cancel_left] at entry
      rw [h'.shown k' d entry, h.clock_eq, h.readings_eq, Nat.add_assoc]
  issueNotes_eq := by
    rw [h'.issueNotes_eq, h.issueNotes_eq, issuesOf, issuesOf, issuesOf, List.filterMap_append,
      List.map_append, List.append_assoc]

/-- Every issue follows the settings as of a reading of the clock. -/
theorem exists_follows (h : Obeys s digest w w' requests drafts) {i : Issue}
    (member : i ∈ issuesOf ⟨s, digest⟩ drafts) :
    ∃ k now, w.readings ≤ k ∧ k < w'.readings ∧ w.clock k = some now ∧ i.Follows s digest now := by
  obtain ⟨d, drafted, issued⟩ := List.mem_filterMap.mp member
  obtain ⟨k, inside, rfl⟩ := List.getElem_of_mem drafted
  obtain ⟨now, shown, follows⟩ := Draft.exists_of_issue? issued
  refine ⟨w.readings + k, now, Nat.le_add_right _ _, ?_, ?_, follows⟩
  · rw [h.readings_eq]
    exact Nat.add_lt_add_left inside _
  · rw [← h.shown k _ (List.getElem?_eq_getElem inside), shown]

end Obeys

/-! ## Work that obeys -/

section Work

variable {α β : Type} {s : Settings} {digest : Digest.Algorithm}

/-- Work that obeys settings and a digest from every workshop, whether or not it faults. If it does not, what
    it ends with has to do with the certificates that it issued, oldest first, as `post` says. -/
def Obedient (s : Settings) (digest : Digest.Algorithm) (post : α → List Certificate → Prop)
    (work : Work α) : Prop :=
  ∀ w, ∃ requests drafts, Obeys s digest w (work.perform w).2 requests drafts ∧
    ∀ a, (work.perform w).1 = .ok a → post a (certificatesOf ⟨s, digest⟩ drafts)

namespace Obedient

variable {post : β → List Certificate → Prop}

theorem pure {b : β} (holds : post b []) : Obedient s digest post (Pure.pure b) := fun w =>
  ⟨0, [], .refl w, fun _ ended => Except.ok.inj ended ▸ holds⟩

theorem ofExcept {r : Except Fault β} (holds : ∀ b, r = .ok b → post b []) :
    Obedient s digest post (Work.ofExcept r) := fun w => by
  rw [Work.perform_ofExcept]
  exact ⟨0, [], .refl w, holds⟩

theorem note {post : Unit → List Certificate → Prop} {n : Log.Note} (other : n.logger ≠ forgeLogger)
    (holds : post () []) : Obedient s digest post (Work.note n) := fun w => by
  rw [Work.perform_note]
  exact ⟨0, [], .of_idles (.of_note ⟨rfl, rfl, rfl, rfl, rfl⟩ rfl other) rfl, fun _ _ => holds⟩

/-- Work after work: the second issues its certificates after those of the first. -/
theorem bind {P : α → List Certificate → Prop} {x : Work α} {f : α → Work β}
    (before : Obedient s digest P x)
    (after : ∀ a cs, P a cs → Obedient s digest (fun b cs' => post b (cs ++ cs')) (f a)) :
    Obedient s digest post (x >>= f) := fun w => by
  obtain ⟨requests, drafts, obeys, ends⟩ := before w
  rw [Work.perform_bind]
  rcases run : x.perform w with ⟨e | a, w₁⟩ <;> rw [run] at obeys ends
  · exact ⟨requests, drafts, obeys, fun _ no => nomatch no⟩
  · obtain ⟨requests', drafts', obeys', ends'⟩ := after a _ (ends a rfl) w₁
    refine ⟨_, _, obeys.trans obeys', fun b ended => ?_⟩
    rw [certificatesOf_append]
    exact ends' b ended

/-- Work after work that issues nothing. -/
theorem bind_quiet {x : Work α} {f : α → Work β} (quiet : Obedient s digest (fun _ cs => cs = []) x)
    (after : ∀ a, Obedient s digest post (f a)) : Obedient s digest post (x >>= f) := by
  refine .bind quiet ?_
  rintro a _ rfl
  exact after a

/-- Measuring asks for nothing and issues nothing. -/
theorem measuredIf {x : Work β} (h : Obedient s digest post x) (wanted : Bool) (operation : String)
    (extra : List (String × Datum)) :
    Obedient s digest post (Mint.measuredIf wanted operation extra x) := fun w => by
  cases wanted with
  | false => exact h w
  | true =>
      obtain ⟨m, logged, -, -, run⟩ := exists_perform_measured operation
        (some (extra.map fun e => (.text e.1, e.2))) x w
      have same : (Mint.measuredIf true operation extra x).perform w = _ := run
      obtain ⟨requests, drafts, obeys, ends⟩ := h (started w)
      have before : Obeys s digest w (started w) 0 [] := .of_idles (idles_started w) rfl
      have after : Obeys s digest (x.perform (started w)).2
          (recorded (x.perform (started w)).2 m (metricNote operation logged)) 0 [] :=
        .of_idles (idles_recorded _ m operation logged) rfl
      rw [same]
      have all := (before.trans obeys).trans after
      rw [List.nil_append, List.append_nil, Nat.zero_add, Nat.add_zero] at all
      exact ⟨requests, drafts, all, ends⟩

end Obedient

/-! ## Keys and certificates -/

theorem obedient_generate {post : Rsa.KeyPair → List Certificate → Prop} (holds : ∀ k, post k []) :
    Obedient s digest post (generate s) := fun w => by
  have asked {w' : Workshop} (taken : List (Except Fault Rsa.KeyPair))
      (requests : w'.requests = w.requests ++ [(s.keySize, s.publicExponent)])
      (spends : Spends w w' taken [] 0) (one : taken.length ≤ 1) (notes : issueNotes w' = issueNotes w) :
      Obeys s digest w w' 1 [] := {
    requests_eq := requests
    keys := ⟨taken, spends.keys_eq, one⟩
    clock_eq := spends.clock_eq
    readings_eq := spends.readings_eq
    shown := fun _ _ no => nomatch no
    issueNotes_eq := notes.trans (List.append_nil _).symm }
  refine ⟨1, [], ?_, fun k _ => holds k⟩
  rw [perform_generate]
  split
  · exact asked [] rfl ⟨rfl, rfl, rfl, rfl, rfl⟩ (Nat.zero_le 1) rfl
  · exact asked [] rfl ⟨rfl, rfl, rfl, rfl, rfl⟩ (Nat.zero_le 1) rfl
  · next supply => exact asked [_] rfl ⟨supply, rfl, rfl, rfl, rfl⟩ (Nat.le_refl 1) rfl
  · next supply =>
      have other : keyLogger ≠ forgeLogger := by decide
      exact asked [_] rfl ⟨supply, rfl, rfl, rfl, rfl⟩ (Nat.le_refl 1) (issueNotes_of_note rfl other)

theorem obedient_issue {post : Certificate → List Certificate → Prop} {issuer subject : Rsa.KeyPair}
    {valid : Bool} (distance : Nat) (holds : ∀ c, post c [c]) :
    Obedient s digest post
      (Forge.issue ⟨s, digest⟩ (some issuer) (some subject) (.bool valid) (.int distance)) := fun w => by
  rw [perform_issue]
  split
  · exact ⟨0, [], .refl w, fun _ no => nomatch no⟩
  · exact ⟨0, [], .of_same rfl rfl rfl rfl rfl, fun _ no => nomatch no⟩
  · next serial rest supply =>
      let d : Draft := ⟨issuer, subject, valid, distance, serial, w.clock w.readings⟩
      cases outcome : certificateFor ⟨s, digest⟩ issuer subject valid distance serial
          (w.clock w.readings) with
      | error o =>
          have refused : d.issue? ⟨s, digest⟩ = none := by
            simp only [d, Draft.issue?, outcome]
            rfl
          refine ⟨0, [d], .of_draft d rfl rfl rfl rfl rfl ?_, fun _ no => nomatch no⟩
          rw [refused]
          exact (List.append_nil _).symm
      | ok c =>
          have issued : d.issue? ⟨s, digest⟩ = some ⟨subject, serial, valid, distance, c⟩ := by
            simp only [d, Draft.issue?, outcome]
            rfl
          refine ⟨0, [d], .of_draft d rfl rfl rfl rfl rfl ?_, fun c' ended => ?_⟩
          · rw [issued]
            exact List.filter_append _ _
          · obtain rfl : c = c' := Except.ok.inj ended
            have only : certificatesOf ⟨s, digest⟩ [d] = [c] := by
              rw [certificatesOf, issuesOf, List.filterMap_cons_some issued]
              rfl
            rw [only]
            exact holds c

/-! ## Fixtures -/

variable {b : Builder}

theorem obedient_certificatesFrom (keys : b.settings = s) (forge : b.forge = ⟨s, digest⟩) (invalid : Datum)
    {position : Nat} (issuer subject : Rsa.KeyPair) :
    Obedient s digest (fun certificates issued => certificates = issued.reverse)
      (b.certificatesFrom invalid issuer subject position) := by
  induction position generalizing issuer subject with
  | zero =>
      rw [Builder.certificatesFrom, forge]
      refine .bind (P := fun c issued => issued = [c]) (obedient_issue _ fun _ => rfl) ?_
      rintro c _ rfl
      exact .pure rfl
  | succ position ih =>
      rw [Builder.certificatesFrom, forge, keys]
      refine .bind (P := fun c issued => issued = [c]) (obedient_issue _ fun _ => rfl) ?_
      rintro c _ rfl
      refine .bind_quiet (obedient_generate fun _ => rfl) fun next => ?_
      refine .bind (ih subject next) ?_
      -- the certificate of this position was issued first, and stands last
      rintro below issued rfl
      apply Obedient.pure
      rw [List.append_nil, List.reverse_append, List.reverse_singleton]

theorem obedient_chain (keys : b.settings = s) (forge : b.forge = ⟨s, digest⟩) (invalid : Datum) :
    Obedient s digest (fun chain issued => chain.certificates = issued.reverse) (b.chain invalid) := by
  have other : chainLogger ≠ forgeLogger := by decide
  rw [Builder.chain]
  refine .bind_quiet (.ofExcept fun _ _ => rfl) fun _ => ?_
  refine .bind (P := fun certificates issued => certificates = issued.reverse) ?_ ?_
  · apply Obedient.measuredIf
    rw [keys]
    refine .bind_quiet (obedient_generate fun _ => rfl) fun rootPair => ?_
    exact obedient_certificatesFrom keys forge invalid rootPair rootPair
  · rintro _ issued rfl
    refine .bind_quiet (.ofExcept fun _ _ => rfl) fun shown => ?_
    refine .bind_quiet (.note other rfl) fun _ => ?_
    apply Obedient.ofExcept
    intro chain finished
    unfold Chain.of at finished
    split at finished
    · rw [← Except.ok.inj finished, List.append_nil]
    · cases finished

theorem obedient_single (keys : b.settings = s) (forge : b.forge = ⟨s, digest⟩) (valid selfSigned : Bool) :
    Obedient s digest (fun c issued => [c] = issued.reverse) (b.single (.bool valid) (.bool selfSigned)) := by
  have other : chainLogger ≠ forgeLogger := by decide
  rw [Builder.single]
  refine .bind (P := fun c issued => issued = [c]) ?_ ?_
  · apply Obedient.measuredIf
    rw [keys, forge]
    refine .bind_quiet (obedient_generate fun _ => rfl) fun subject => ?_
    cases selfSigned with
    | true => exact obedient_issue 0 fun _ => rfl
    | false =>
        refine .bind_quiet (obedient_generate fun _ => rfl) fun issuer => ?_
        exact obedient_issue 0 fun _ => rfl
  · rintro c _ rfl
    refine .bind_quiet (.ofExcept fun _ _ => rfl) fun shownValid => ?_
    refine .bind_quiet (.ofExcept fun _ _ => rfl) fun shownSelf => ?_
    exact .bind_quiet (.note other rfl) fun _ => .pure rfl

theorem Obedient.map {P : α → List Certificate → Prop} {post : β → List Certificate → Prop} {x : Work α}
    {g : α → β} (h : Obedient s digest P x) (holds : ∀ a cs, P a cs → post (g a) cs) :
    Obedient s digest post (g <$> x) := by
  rw [map_eq_pure_bind]
  refine .bind h fun a cs ended => .pure ?_
  rw [List.append_nil]
  exact holds a cs ended

theorem obedient_fixture (keys : b.settings = s) (forge : b.forge = ⟨s, digest⟩) (scenario : Scenario) :
    Obedient s digest (fun fixture issued => fixture.certificates = issued.reverse)
      (b.fixture scenario) := by
  cases scenario with
  | validChain | expiredIntermediateChain | expiredRootChain =>
      exact (obedient_chain keys forge _).map fun _ _ made => made
  | valid | expired | selfSigned | expiredSelfSigned =>
      exact (obedient_single keys forge _ _).map fun _ _ made => made

end Work

/-! ## Facades in use -/

/-- What is done with a facade. -/
inductive Move where
  | assign (field : Settings.Field) (d : Datum)
  /-- The facade is wired anew, with an engine or without one. -/
  | rewire (engine : Except Fault Engine)
  | generate (scenario : Scenario)

/-- What a move came to. -/
inductive Played where
  | assigned (field : Settings.Field) (d : Datum)
  | rewired (r : Except Fault Unit)
  | generated (scenario : Scenario) (before : Workshop) (r : Except Fault Fixture) (after : Workshop)

namespace Played

def isWiring : Played → Bool
  | .rewired (.ok _) => true
  | _ => false

end Played

namespace Facade

/-- A move with a facade. If the facade cannot be wired anew it stays as it was wired. -/
def play (f : Facade) (w : Workshop) : Move → Played × Facade × Workshop
  | .assign field d => (.assigned field d, f.assign field d, w)
  | .rewire engine =>
    match f.rewire.perform { w with engine } with
    | (.ok f', w') => (.rewired (.ok ()), f', w')
    | (.error e, w') => (.rewired (.error e), f, w')
  | .generate scenario =>
    let ended := (f.generate scenario).perform w
    (.generated scenario w ended.1 ended.2, f, ended.2)

/-- Moves one after the other, whether or not they fault. -/
def playAll (f : Facade) (w : Workshop) : List Move → List Played
  | [] => []
  | m :: rest =>
    let (p, f', w') := f.play w m
    p :: f'.playAll w' rest

end Facade

/-- Settings after what was assigned in moves. -/
def assigned (s : Settings) (played : List Played) : Settings :=
  played.foldl (fun s p => match p with
    | .assigned field d => s.set field d
    | _ => s) s

/-- The moves up to the last wiring that succeeded. -/
def untilWired (played : List Played) : List Played := played.rdropWhile (!·.isWiring)

def Names (name : Datum) (digest : Digest.Algorithm) : Prop :=
  ∃ text, algorithmName name = .ok text ∧ algorithmOf text = .ok digest

/-- What was asked for and issued in a call, with the settings as they are at the call and as they were when
    the facade was wired last. -/
def Reached (current wired : Settings) (w w' : Workshop) (r : Except Fault Fixture) : Prop :=
  ∃ digest requests drafts, Names wired.signatureHash digest ∧
    Obeys current digest w w' requests drafts ∧
    (∀ fixture, r = .ok fixture →
      fixture.certificates = (certificatesOf ⟨current, digest⟩ drafts).reverse) ∧
    ∀ i ∈ issuesOf ⟨current, digest⟩ drafts, ∃ k now, w.readings ≤ k ∧ k < w'.readings ∧
      w.clock k = some now ∧ i.Follows current digest now

theorem names_of_digestOf {engine : Except Fault Engine} {name : Datum} {digest : Digest.Algorithm}
    (found : digestOf engine name = .ok digest) : Names name digest := by
  obtain ⟨text, named, rest⟩ := bind_eq_ok.mp found
  obtain ⟨algorithm, known, rest⟩ := bind_eq_ok.mp rest
  obtain ⟨e, -, rest⟩ := bind_eq_ok.mp rest
  split at rest
  · exact ⟨text, named, Except.ok.inj rest ▸ known⟩
  · cases rest

theorem Facade.of_wire {s : Settings} {measures : Bool} {w w' : Workshop} {f : Facade}
    (wired : (Facade.wire s measures).perform w = (.ok f, w')) :
    f.settings = s ∧ Names s.signatureHash f.digest := by
  have made (engine : Except Fault Engine)
      (found : (digestOf engine s.signatureHash).map (fun digest => Facade.mk s digest measures) = .ok f) :
      f.settings = s ∧ Names s.signatureHash f.digest := by
    cases digest : digestOf engine s.signatureHash with
    | error e =>
        rw [digest] at found
        cases found
    | ok d =>
        rw [digest] at found
        rw [← Except.ok.inj found]
        exact ⟨rfl, names_of_digestOf digest⟩
  rw [perform_wire, afterRegistration] at wired
  split at wired
  · exact made _ (Prod.mk.inj wired).1
  · cases (Prod.mk.inj wired).1
  · exact made _ (Prod.mk.inj wired).1

theorem Facade.eq_of_play {f : Facade} {w v v' : Workshop} {m : Move} {scenario : Scenario}
    {r : Except Fault Fixture} (plays : (f.play w m).1 = .generated scenario v r v') :
    w = v ∧ ((f.generate scenario).perform w).1 = r ∧ ((f.generate scenario).perform w).2 = v' := by
  cases m with
  | assign field d => cases plays
  | rewire engine =>
      rw [Facade.play] at plays
      split at plays <;> cases plays
  | generate scenario' =>
      obtain ⟨rfl, rfl, rfl, rfl⟩ := Played.generated.inj plays
      exact ⟨rfl, rfl, rfl⟩

/-- A facade after moves: its settings are as they were assigned, and its digest has the name that stood in
    the settings when it was wired. -/
structure Stands (s : Settings) (played : List Played) (f : Facade) : Prop where
  settings_eq : f.settings = assigned s played
  names : Names (assigned s (untilWired played)).signatureHash f.digest

theorem assigned_concat (s : Settings) (played : List Played) (p : Played) :
    assigned s (played ++ [p]) = assigned (assigned s played) [p] := List.foldl_append

theorem untilWired_concat_of_not {p : Played} (other : p.isWiring = false) (played : List Played) :
    untilWired (played ++ [p]) = untilWired played := by
  rw [untilWired, List.rdropWhile_concat_pos _ _ _ (by rw [other]; rfl)]
  rfl

theorem untilWired_concat {p : Played} (wiring : p.isWiring = true) (played : List Played) :
    untilWired (played ++ [p]) = played ++ [p] := by
  rw [untilWired, List.rdropWhile_concat_neg _ _ _ (by rw [wiring]; decide)]

namespace Stands

variable {s : Settings} {played : List Played} {f : Facade}

/-- A move that is not a wiring and changes no more than the settings. -/
theorem keep {p : Played} {f' : Facade} (h : Stands s played f) (other : p.isWiring = false)
    (settings : f'.settings = assigned f.settings [p]) (digest : f'.digest = f.digest) :
    Stands s (played ++ [p]) f' where
  settings_eq := by rw [assigned_concat, ← h.settings_eq, settings]
  names := by
    rw [untilWired_concat_of_not other, digest]
    exact h.names

theorem play (h : Stands s played f) (w : Workshop) (m : Move) :
    Stands s (played ++ [(f.play w m).1]) (f.play w m).2.1 := by
  cases m with
  | assign field d => exact h.keep rfl rfl rfl
  | generate scenario => exact h.keep rfl rfl rfl
  | rewire engine =>
      rw [Facade.play]
      rcases wiring : f.rewire.perform { w with engine } with ⟨e | f', w'⟩
      -- the old facade stays, with the settings that were assigned meanwhile
      · exact h.keep rfl rfl rfl
      · obtain ⟨settings, names⟩ := Facade.of_wire wiring
        have same : assigned s (played ++ [Played.rewired (.ok ())]) = f.settings := by
          rw [assigned_concat, ← h.settings_eq]
          rfl
        refine ⟨settings.trans same.symm, ?_⟩
        dsimp only
        rw [untilWired_concat rfl, same]
        exact names

/-- A call with a facade asks and issues as the facade stands. -/
theorem reached (h : Stands s played f) (scenario : Scenario) (w : Workshop) :
    Reached (assigned s played) (assigned s (untilWired played)) w
      ((f.generate scenario).perform w).2 ((f.generate scenario).perform w).1 := by
  have obedient : Obedient f.settings f.digest (fun fixture issued => fixture.certificates = issued.reverse)
    (f.generate scenario) := obedient_fixture (b := f.builder) (s := f.settings) rfl rfl scenario
  obtain ⟨requests, drafts, obeys, ends⟩ := obedient w
  rw [← h.settings_eq]
  exact ⟨f.digest, requests, drafts, h.names, obeys, ends, fun i member => obeys.exists_follows member⟩

theorem reached_of_playAll (h : Stands s played f) {w : Workshop} {moves : List Move}
    {earlier later : List Played} {scenario : Scenario} {v v' : Workshop} {r : Except Fault Fixture}
    (plays : f.playAll w moves = earlier ++ .generated scenario v r v' :: later) :
    Reached (assigned s (played ++ earlier)) (assigned s (untilWired (played ++ earlier))) v v' r := by
  -- how the facade stands is carried from move to move until the call is reached
  induction moves generalizing played f w earlier with
  | nil => exact absurd plays.symm (List.append_ne_nil_of_right_ne_nil _ (List.cons_ne_nil _ _))
  | cons m rest ih =>
      rw [Facade.playAll] at plays
      cases earlier with
      | nil =>
          have first : (f.play w m).1 = .generated scenario v r v' := (List.cons.inj plays).1
          obtain ⟨rfl, rfl, rfl⟩ := Facade.eq_of_play first
          rw [List.append_nil]
          exact h.reached scenario w
      | cons p earlier =>
          have first : (f.play w m).1 = p := (List.cons.inj plays).1
          have others : (f.play w m).2.1.playAll (f.play w m).2.2 rest =
            earlier ++ .generated scenario v r v' :: later := (List.cons.inj plays).2
          have all := ih (h.play w m) others
          rw [first, List.append_assoc, List.singleton_append] at all
          exact all

end Stands

/-- Whatever is done with a facade from its first wiring on, and whichever of that fails: what a call asks for
    is asked for with the key size and the exponent that were assigned until then, and the certificates that
    it issues, also those that are lost because the call fails later, have the windows of the settings as
    they were assigned until then. The signatures are over the digest with the name that was assigned until
    the last wiring that succeeded. -/
theorem reached_of_wire {s : Settings} {measures : Bool} {w₀ w : Workshop} {f : Facade}
    (wired : (Facade.wire s measures).perform w₀ = (.ok f, w)) {moves : List Move}
    {earlier later : List Played} {scenario : Scenario} {v v' : Workshop} {r : Except Fault Fixture}
    (plays : f.playAll w moves = earlier ++ .generated scenario v r v' :: later) :
    Reached (assigned s earlier) (assigned s (untilWired earlier)) v v' r := by
  obtain ⟨settings, names⟩ := Facade.of_wire wired
  have stands : Stands s [] f := ⟨settings, names⟩
  exact stands.reached_of_playAll plays

/-! ### A wiring that fails -/

def gone : Fault := .of .runtime "no engine"

/-- The digest is changed and the facade is not wired anew, since there is no engine; then the key size is
    changed. -/
def changes : List Move :=
  [.assign .signatureHash (.text "SHA512"), .rewire (.error gone), .assign .keySize (.int 2048),
    .generate .selfSigned]

def changed : List Played :=
  [.assigned .signatureHash (.text "SHA512"), .rewired (.error gone), .assigned .keySize (.int 2048)]

/-- The facade after the changes. -/
def changedFacade : Facade := ⟨assigned {} changed, .sha256, false⟩

theorem isOk_generate_changed : ((changedFacade.generate .selfSigned).perform
    { stockedWorkshop with engine := .error gone }).1.isOk = true := by
  decide +kernel

/-- The key is asked for with the new size, and the signature is over the old digest. -/
theorem reached_of_wire_changes :
    ∃ f w v v' fixture, (Facade.wire {} false).perform stockedWorkshop = (.ok f, w) ∧
      f.playAll w changes = changed ++ [.generated .selfSigned v (.ok fixture) v'] ∧
      (∃ n, v'.requests = v.requests ++ List.replicate n (.int 2048, .int 65537)) ∧
        ∀ c ∈ fixture.certificates, c.outerAlgorithm.rsaDigest? = some .sha256 := by
  have wired : (Facade.wire {} false).perform stockedWorkshop =
      (.ok ⟨{}, .sha256, false⟩, stockedWorkshop) := by
    rw [perform_wire]
    rfl
  let v : Workshop := { stockedWorkshop with engine := .error gone }
  have plays : Facade.playAll ⟨{}, .sha256, false⟩ stockedWorkshop changes =
      changed ++ [.generated .selfSigned v ((changedFacade.generate .selfSigned).perform v).1
        ((changedFacade.generate .selfSigned).perform v).2] := by
    have unwired : (Facade.assign ⟨{}, .sha256, false⟩ .signatureHash (.text "SHA512")).play stockedWorkshop
        (.rewire (.error gone)) = (.rewired (.error gone),
          Facade.assign ⟨{}, .sha256, false⟩ .signatureHash (.text "SHA512"), v) := by
      rw [Facade.play, Facade.rewire, perform_wire]
      rfl
    rw [changes, Facade.playAll, Facade.play]
    dsimp only
    rw [Facade.playAll, unwired]
    rfl
  cases made : ((changedFacade.generate .selfSigned).perform v).1 with
  | error e =>
      have ended := isOk_generate_changed
      rw [made] at ended
      cases ended
  | ok fixture =>
      rw [made] at plays
      obtain ⟨digest, requests, drafts, names, obeys, ends, follows⟩ := reached_of_wire wired plays
      refine ⟨_, _, v, _, fixture, wired, plays, ⟨requests, obeys.requests_eq⟩, fun c member => ?_⟩
      obtain rfl : Digest.Algorithm.sha256 = digest := by
        obtain ⟨text, named, known⟩ := names
        obtain rfl : "SHA256" = text := Except.ok.inj named
        exact Except.ok.inj known
      rw [ends fixture rfl, List.mem_reverse] at member
      obtain ⟨i, issued, rfl⟩ := List.mem_map.mp member
      obtain ⟨_, _, _, _, _, _, _, _, built⟩ := follows i issued
      exact built.digest_eq

end CertMint.Mint
