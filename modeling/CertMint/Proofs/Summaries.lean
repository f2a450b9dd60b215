import CertMint.Proofs.Arguments
import CertMint.Proofs.Loading
import CertMint.Proofs.OneLine
import CertMint.Proofs.Pem
import CertMint.Proofs.Runs
import CertMint.Proofs.Sessions
import CertMint.Proofs.Singles

/-! # Certificates summed up

A run writes its fixture in PEM or sums it up in lines. Both are about the same certificates: those that are
read back from the PEM are summed up in their order, one on each line, as of readings of the clock that come
after the ones they were issued at.
-/

namespace CertMint

open Ini (OneLine textOf)

namespace Mint

open X509

/-! ## One certificate -/

theorem oneLine_keyText (k : Rsa.PublicKey) : OneLine (keyText k) := by
  have absent (c : Char) (notPad : c ≠ '=') (notDigit : ∀ n < 64, c ≠ Text.Base64.urlDigit n) :
      c ∉ (keyText k).toList := by
    rw [keyText, String.toList_ofList]
    exact Text.Base64.not_mem_encodeWith notPad notDigit _
  exact ⟨absent _ (by decide) (by decide), absent _ (by decide) (by decide)⟩

theorem oneLine_truthText (b : Bool) : OneLine (truthText b) := by
  cases b <;> decide

theorem oneLine_pathLength (pathLength : Option Nat) : OneLine ((pathLength.map toString).getD "None") := by
  cases pathLength with
  | none => decide
  | some n => exact Ini.oneLine_nat n

/-- The line about a certificate at a position, as of a moment. -/
inductive Summary (c : Certificate) (position : Nat) (now : Moment) : String → Prop
  | mk {subject issuer : String} {pathLength : Option Nat} :
      c.subject.text = .ok subject → c.issuer.text = .ok issuer → c.pathLength = .ok pathLength →
      Summary c position now ("[" ++ toString position ++ "] subject=" ++ subject ++ " issuer=" ++ issuer
        ++ " serial=" ++ toString c.serial ++ " not_before=" ++ c.notBefore.iso
        ++ " not_after=" ++ c.notAfter.iso
        ++ " valid=" ++ truthText (decide (c.notBefore.instant ≤ now.instant ∧
          now.instant ≤ c.notAfter.instant))
        ++ " self_signed=" ++ truthText (c.issuer.same c.subject)
        ++ " path_length=" ++ (pathLength.map toString).getD "None")

namespace Issued

variable {c : Certificate}

theorem oneLine_summary (h : Issued c) {position : Nat} {now : Moment} {line : String}
    (summary : Summary c position now line) : OneLine line := by
  obtain ⟨subjectText, issuerText, _⟩ := summary
  obtain ⟨subject, issuer, subject_eq, issuer_eq⟩ := h.exists_subject_eq
  rw [subject_eq] at subjectText
  rw [issuer_eq] at issuerText
  have subjectLine := oneLine_of_text_ofCommonName (oneLine_keyText _) subjectText
  have issuerLine := oneLine_of_text_ofCommonName (oneLine_keyText _) issuerText
  simp only [Ini.OneLine.append_iff, subjectLine, issuerLine, Ini.oneLine_int, Ini.oneLine_nat,
    Moment.oneLine_iso, oneLine_truthText, oneLine_pathLength, and_true]
  decide

/-- A certificate that was issued is described as of every moment with an offset, on a line that sums it
    up. -/
theorem exists_describeAt (h : Issued c) {now : Moment} (aware : now.offset.isSome = true) :
    ∃ d, describeAt c now = .ok d ∧ ∀ position, Summary c position now (d.line position) := by
  obtain ⟨_, _, _, _, _, _, _, _, _, builds⟩ := h
  have built := built_of_build builds
  obtain ⟨offset, known⟩ := Option.isSome_iff_exists.mp aware
  obtain ⟨d, described, -⟩ := built.exists_describes rfl rfl known
  refine ⟨d, described, ?_⟩
  have between := between_of_aware built.offset_notBefore built.offset_notAfter known
  simp only [describeAt, bind_eq_ok, between] at described
  obtain ⟨subject, subjectText, issuer, issuerText, current, eq, pathLength, constrained, rest⟩ := described
  obtain rfl := Except.ok.inj eq
  obtain rfl := Except.ok.inj rest
  intro position
  exact .mk subjectText issuerText constrained

end Issued

/-! ## Fixtures -/

section Making

variable {b : Builder} {w w' : Workshop} {fixture : Fixture}

/-- A fixture was made of certificates that were issued, with a reading of the clock for each of them. -/
structure Making (w w' : Workshop) (cs : List Certificate) : Prop where
  readings_eq : w'.readings = w.readings + cs.length
  clock_eq : w'.clock = w.clock
  issued : ∀ c ∈ cs, Issued c

theorem making_of_chain {invalid : Datum} {chain : Chain}
    (h : (b.chain invalid).perform w = (.ok chain, w')) : Making w w' chain.certificates := by
  obtain ⟨root, keys, serials, spends, descent⟩ := descent_of_chain h
  refine ⟨?_, spends.clock_eq, descent.issued⟩
  rw [spends.readings_eq, descent.length_eq]

theorem making_of_single {valid selfSigned : Bool} {c : Certificate}
    (h : (b.single (.bool valid) (.bool selfSigned)).perform w = (.ok c, w')) : Making w w' [c] := by
  obtain ⟨_, _, _, _, draw⟩ := exists_draw_of_single h
  exact ⟨draw.spends.readings_eq, draw.spends.clock_eq, by simpa using draw.issued.issued⟩

theorem exists_of_map {α : Type} {work : Work α} {g : α → Fixture}
    (h : (g <$> work).perform w = (.ok fixture, w')) : ∃ a, work.perform w = (.ok a, w') ∧ g a = fixture := by
  rw [map_eq_pure_bind, Work.perform_bind_eq_ok] at h
  obtain ⟨a, w₁, made, rest⟩ := h
  obtain ⟨same, rfl⟩ := Prod.mk.inj rest
  exact ⟨a, made, Except.ok.inj same⟩

theorem making_of_fixture {scenario : Scenario} (h : (b.fixture scenario).perform w = (.ok fixture, w')) :
    Making w w' fixture.certificates := by
  cases scenario with
  | validChain | expiredIntermediateChain | expiredRootChain =>
      obtain ⟨chain, made, rfl⟩ := exists_of_map h
      exact making_of_chain made
  | valid | expired | selfSigned | expiredSelfSigned =>
      obtain ⟨c, made, rfl⟩ := exists_of_map h
      exact making_of_single made

theorem Fixture.length_certificates (fixture : Fixture) :
    fixture.certificates ≠ [] ∧ fixture.certificates.length ≤ chainLength := by
  cases fixture with
  | certificate c => exact ⟨List.cons_ne_nil _ _, show 1 ≤ chainLength by decide⟩
  | chain c =>
      refine ⟨?_, Nat.le_of_eq c.length_eq⟩
      apply List.ne_nil_of_length_pos
      rw [Fixture.certificates, c.length_eq]
      decide

end Making

/-! ## Lines -/

/-- The clock shows a moment with an offset at each of so many readings to come. -/
def Ticks (w : Workshop) (readings : Nat) : Prop :=
  ∀ n < readings, ∃ now, w.clock (w.readings + n) = some now ∧ now.offset.isSome = true

/-- Lines that sum certificates up, one after the other, each as of its own reading of the clock. -/
inductive Summarized (clock : Nat → Option Moment) : Nat → Nat → List Certificate → List String → Prop
  | nil {reading position : Nat} : Summarized clock reading position [] []
  | cons {reading position : Nat} {now : Moment} {c : Certificate} {cs : List Certificate} {line : String}
      {lines : List String} : clock reading = some now → Summary c position now line →
      Summarized clock (reading + 1) (position + 1) cs lines →
      Summarized clock reading position (c :: cs) (line :: lines)

namespace Summarized

variable {clock : Nat → Option Moment} {reading position : Nat} {cs : List Certificate} {lines : List String}

theorem length_eq (h : Summarized clock reading position cs lines) : lines.length = cs.length := by
  induction h with
  | nil => rfl
  | cons _ _ _ ih => rw [List.length_cons, List.length_cons, ih]

theorem oneLine (h : Summarized clock reading position cs lines) (issued : ∀ c ∈ cs, Issued c) :
    ∀ line ∈ lines, OneLine line := by
  induction h with
  | nil => simp
  | cons _ summary _ ih =>
      obtain ⟨first, others⟩ := List.forall_mem_cons.mp issued
      exact List.forall_mem_cons.mpr ⟨first.oneLine_summary summary, ih others⟩

theorem exists_summary (h : Summarized clock reading position cs lines) {i : Nat} {c : Certificate}
    (at_ : cs[i]? = some c) :
    ∃ now line, clock (reading + i) = some now ∧ lines[i]? = some line ∧ Summary c (position + i) now line := by
  induction h generalizing i with
  | nil => cases at_
  | cons shows summary _ ih =>
      cases i with
      | zero =>
          obtain rfl := Option.some.inj at_
          exact ⟨_, _, shows, rfl, summary⟩
      | succ i =>
          obtain ⟨now, line, shows', line_eq, summary'⟩ := ih at_
          refine ⟨now, line, ?_, line_eq, ?_⟩
          · rwa [Nat.add_right_comm] at shows'
          · rwa [Nat.add_right_comm] at summary'

end Summarized

/-- Certificates that were issued are described on lines that sum them up, with a reading of the clock for
    each of them. -/
theorem exists_describeLines {cs : List Certificate} (issued : ∀ c ∈ cs, Issued c) {w : Workshop}
    (ticks : Ticks w cs.length) (position : Nat) :
    ∃ lines w', (describeLines position cs).perform w = (.ok lines, w') ∧
      Summarized w.clock w.readings position cs lines := by
  induction cs generalizing w position with
  | nil => exact ⟨[], w, rfl, .nil⟩
  | cons c cs ih =>
      obtain ⟨first, others⟩ := List.forall_mem_cons.mp issued
      obtain ⟨now, shows, aware⟩ := ticks 0 (Nat.succ_pos _)
      rw [Nat.add_zero] at shows
      obtain ⟨d, described, summary⟩ := first.exists_describeAt aware
      have later : Ticks { w with readings := w.readings + 1 } cs.length := by
        intro n inside
        have next := ticks (n + 1) (Nat.succ_lt_succ inside)
        rwa [Nat.add_comm n, ← Nat.add_assoc] at next
      obtain ⟨lines, w', rest, summarized⟩ := ih others later (position + 1)
      refine ⟨d.line position :: lines, w', ?_, .cons shows (summary position) summarized⟩
      simp only [describeLines, inspect, Work.perform_bind, Work.perform_readClock, shows,
        Work.perform_ofExcept, described, rest, Work.perform_pure]

theorem intercalate_eq_textOf {lines : List String} (some_ : lines ≠ []) :
    "\n".intercalate lines ++ "\n" = textOf lines := by
  induction lines with
  | nil => exact absurd rfl some_
  | cons line lines ih =>
      cases lines with
      | nil => simp [textOf]
      | cons next lines =>
          have rest := ih (List.cons_ne_nil _ _)
          rw [String.intercalate_cons_cons, String.append_assoc, rest]
          simp [textOf]

/-- The certificates of a text in PEM. -/
def certificatesIn (text : String) : Option (List Certificate) := do
  (← Text.Pem.blocks? "CERTIFICATE" text).mapM fun octets => (Certificate.ofDer octets).toOption

theorem mapM_ofDer {cs : List Certificate} (issued : ∀ c ∈ cs, Issued c) :
    (cs.map (·.der)).mapM (fun octets => (Certificate.ofDer octets).toOption) = some cs := by
  induction cs with
  | nil => rfl
  | cons c cs ih =>
      obtain ⟨first, others⟩ := List.forall_mem_cons.mp issued
      rw [List.map_cons, List.mapM_cons, first.ofDer_eq_ok, ih others]
      rfl

theorem certificatesIn_join {cs : List Certificate} (issued : ∀ c ∈ cs, Issued c) :
    certificatesIn (String.join (cs.map pem)) = some cs := by
  have label : OneLine "CERTIFICATE" := by decide
  have blocks := Text.Pem.blocks?_join label (cs.map (·.der))
  rw [List.map_map] at blocks
  exact (congrArg (· >>= _) blocks).trans (mapM_ofDer issued)

end Mint

/-! ## Runs -/

namespace CommandLine

open Mint X509

variable {r : Request} {o : Log.Outlets} {w w' : Workshop} {fixture : Fixture}

theorem Makes.making (h : Makes r o w fixture w') : Making w w' fixture.certificates := by
  cases h with
  | @mk s facade w₁ _ kind _ ready wired named made =>
      have idle := idle_wire s true w
      rw [wired] at idle
      have making := making_of_fixture made
      refine ⟨?_, making.clock_eq.trans idle.clock_eq, making.issued⟩
      rw [making.readings_eq, idle.readings_eq]
      rfl

/-- What is made does not hang on how it is to be written. -/
theorem Makes.describing (h : Makes r o w fixture w') (describe : Bool) :
    Makes { r with describe } o w fixture w' := by
  obtain ⟨⟨loaded, set⟩, wired, named, made⟩ := h
  exact .mk ⟨loaded, set⟩ wired named made

theorem Fails.describing {stage : Stage} {f : Fault} (h : Fails r o w stage f w')
    (early : stage ≠ .rendering) (describe : Bool) : Fails { r with describe } o w stage f w' := by
  cases h with
  | loading loaded => exact .loading loaded
  | logging loaded set => exact .logging loaded set
  | wiring ready wired => exact .wiring ⟨ready.loaded, ready.set⟩ wired
  | naming ready wired named => exact .naming ⟨ready.loaded, ready.set⟩ wired named
  | making ready wired named made => exact .making ⟨ready.loaded, ready.set⟩ wired named made
  | rendering makes rendered => exact absurd rfl early

/-- Two runs from one workshop, of which one writes in PEM what the other sums up. -/
inductive Run.Matches (w : Workshop) (written summed : Run) : Prop
  /-- Both fail alike, with nothing on the output. -/
  | failed {ending : Ending} {w' : Workshop} (failure : ending ≠ .status 0)
      (left : written.Left ending "" w') (left' : summed.Left ending "" w')
  /-- Both end with status zero, and the certificates that are written have a line each. -/
  | done {certificates : List Certificate} {lines : List String}
      (ending_eq : written.ending = .status 0) (ending_eq' : summed.ending = .status 0)
      (read : certificatesIn written.output = some certificates)
      (output_eq : summed.output = textOf lines) (length_eq : lines.length = certificates.length)
      (oneLine : ∀ line ∈ lines, OneLine line)
      (summary : ∀ i c, certificates[i]? = some c → ∃ now line,
        w.clock (w.readings + certificates.length + i) = some now ∧ lines[i]? = some line ∧
          Summary c i now line)

/-- Once a fixture is made there is a clock reading left for each line about it. -/
theorem Makes.exists_summarized (h : Makes r o w fixture w') (ticks : Ticks w (2 * chainLength)) :
    ∃ lines w'', Writes { r with describe := true } o w (textOf lines) w'' ∧
      Summarized w.clock (w.readings + fixture.certificates.length) 0 fixture.certificates lines := by
  obtain ⟨readings_eq, clock_eq, issued⟩ := h.making
  obtain ⟨some_, few⟩ := fixture.length_certificates
  have later : Ticks w' fixture.certificates.length := by
    intro n inside
    obtain ⟨now, shows, aware⟩ := ticks (fixture.certificates.length + n) (by omega)
    refine ⟨now, ?_, aware⟩
    rw [clock_eq, readings_eq, Nat.add_assoc, shows]
  obtain ⟨lines, w'', described, summarized⟩ := exists_describeLines issued later 0
  have lines_ne : lines ≠ [] := by
    rintro rfl
    exact some_ (List.length_eq_zero_iff.mp summarized.length_eq.symm)
  rw [clock_eq, readings_eq] at summarized
  refine ⟨lines, w'', .mk (h.describing true) ?_, summarized⟩
  simp only [render, if_true, Work.perform_bind, described, Work.perform_pure,
    intercalate_eq_textOf lines_ne]

theorem perform_matches (r : Request) (o : Log.Outlets) {w : Workshop} (ticks : Ticks w (2 * chainLength)) :
    Run.Matches w (perform { r with describe := false } o w) (perform { r with describe := true } o w) := by
  rcases fails_or_writes { r with describe := false } o w with ⟨stage, f, w', fails⟩ | ⟨text, w', writes⟩
  · have early : stage ≠ .rendering := by
      rintro rfl
      cases fails with
      | rendering makes rendered => cases rendered
    exact .failed (stage.ending_ne_done f) fails.left (fails.describing early true).left
  · have left := writes.left
    obtain @⟨fixture, w₁, _, _, makes, rendered⟩ := writes
    obtain ⟨same, rfl⟩ := Prod.mk.inj rendered
    obtain rfl := Except.ok.inj same
    have issued := makes.making.issued
    obtain ⟨lines, w₂, summed, summarized⟩ := makes.exists_summarized ticks
    apply Run.Matches.done left.ending_eq summed.left.ending_eq _ summed.left.output_eq
      summarized.length_eq (summarized.oneLine issued)
    · intro i c at_
      obtain ⟨now, line, shows, line_eq, summary⟩ := summarized.exists_summary at_
      rw [Nat.zero_add] at summary
      exact ⟨now, line, shows, line_eq, summary⟩
    · rw [left.output_eq]
      exact certificatesIn_join issued

/-- A run that sums up ends as the run that writes PEM does, and its lines are about the certificates that
    are read back from that PEM, in their order, as of the readings of the clock after those at which they
    were issued. -/
theorem run_matches_summary {texts : List String} {r : Request} (read : Request.ofTexts texts = .ok r)
    (written : r.describe = false) (o : Log.Outlets) {w : Workshop} (ticks : Ticks w (2 * chainLength)) :
    (∀ texts', Request.ofTexts texts' = .ok { r with describe := true } →
      Run.Matches w (run texts o w) (run texts' o w)) ∧
    Request.ofTexts (texts ++ ["--describe"]) = .ok { r with describe := true } := by
  constructor
  · intro texts' read'
    have plain : { r with describe := false } = r := by rw [← written]
    rw [run_of_request read, run_of_request read']
    have both := perform_matches r o ticks
    rwa [plain] at both
  · exact ofTexts_append_describe read

/-- Both runs get to the end. -/
theorem run_matches_summary_validChain :
    Request.ofTexts ["-s", "valid-chain"] = .ok ⟨some .validChain, none, false, none⟩ ∧
    Ticks stockedWorkshop (2 * chainLength) ∧
    Run.Matches stockedWorkshop (run ["-s", "valid-chain"] Settings.strayOutlets stockedWorkshop)
      (run ["-s", "valid-chain", "--describe"] Settings.strayOutlets stockedWorkshop) ∧
    (run ["-s", "valid-chain"] Settings.strayOutlets stockedWorkshop).ending = .status 0 ∧
    (run ["-s", "valid-chain", "--describe"] Settings.strayOutlets stockedWorkshop).ending = .status 0 := by
  have read : Request.ofTexts ["-s", "valid-chain"] = .ok ⟨some .validChain, none, false, none⟩ := by
    decide +kernel
  have ticks : Ticks stockedWorkshop (2 * chainLength) := fun n _ => ⟨_, rfl, rfl⟩
  obtain ⟨alike, described⟩ := run_matches_summary read rfl Settings.strayOutlets ticks
  have both := alike _ described
  have done : (run ["-s", "valid-chain"] Settings.strayOutlets stockedWorkshop).ending = .status 0 := by
    rw [run_of_request read, perform_done_stocked]
  refine ⟨read, ticks, both, done, ?_⟩
  cases both with
  | failed failure left => exact absurd (left.ending_eq.symm.trans done) failure
  | done _ ending_eq' => exact ending_eq'

end CommandLine

end CertMint
