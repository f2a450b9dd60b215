import CertMint.Mint.Fixtures
import CertMint.Proofs.Faults
import CertMint.Proofs.Measuring
import CertMint.Proofs.Provision

/-! # Building under measurement

A builder that measures goes the way of one that does not: it uses up the same supplies, asks the engine
the same and ends alike. It leaves a metric and one note more.
-/

namespace CertMint.Mint

open X509

/-! ## Commissions -/

/-- What a builder is asked for. -/
inductive Commission where
  /-- A chain in which the certificate at a position, if one is given, has the expired window. -/
  | chain (invalid : Datum)
  | single (valid selfSigned : Datum)

namespace Commission

/-- The name under which it is measured. -/
def operation : Commission → String
  | .chain _ => "build_chain"
  | .single _ _ => "build_single_certificate"

def extra : Commission → List (String × Datum)
  | .chain invalid => [("invalid_position", invalid)]
  | .single valid selfSigned => [("is_valid", valid), ("is_self_signed", selfSigned)]

/-- What is checked before anything is built or measured. -/
def check : Commission → Except Fault Unit
  | .chain invalid => Builder.checkPosition invalid
  | .single _ _ => .ok ()

/-- What the measured part of the work builds. -/
def Product : Commission → Type
  | .chain _ => List Certificate
  | .single _ _ => Certificate

def core (b : Builder) : (c : Commission) → Work c.Product
  | .chain invalid => do
      let rootPair ← generate b.settings
      b.certificatesFrom invalid rootPair rootPair (chainLength - 1)
  | .single valid selfSigned => do
      let subject ← generate b.settings
      let issuer ← if selfSigned.truthy then pure subject else generate b.settings
      b.forge.issue (some issuer) (some subject) valid (.int 0)

def finish : (c : Commission) → c.Product → Work Fixture
  | .chain invalid, certificates => do
      let shown ← Work.ofExcept invalid.plain
      Work.note (.of .info chainLogger ("Built certificate chain (invalid position: " ++ shown ++ ")"))
      let chain ← Work.ofExcept (Chain.of certificates)
      return .chain chain
  | .single valid selfSigned, certificate => do
      let shownValid ← Work.ofExcept valid.plain
      let shownSelf ← Work.ofExcept selfSigned.plain
      Work.note (.of .info chainLogger ("Built single certificate (valid: " ++ shownValid
        ++ ", self-signed: " ++ shownSelf ++ ")"))
      return .certificate certificate

def work (b : Builder) : Commission → Work Fixture
  | .chain invalid => .chain <$> b.chain invalid
  | .single valid selfSigned => .certificate <$> b.single valid selfSigned

/-- Building is a check, the measured part and what is done with its product. -/
theorem work_eq (c : Commission) (b : Builder) : c.work b = (do
    Work.ofExcept c.check
    let product ← measuredIf b.measures c.operation c.extra (c.core b)
    c.finish product) := by
  cases c with
  | chain invalid =>
      simp only [work, Builder.chain, map_eq_pure_bind, bind_assoc]
      rfl
  | single valid selfSigned =>
      simp only [work, Builder.single, map_bind, map_pure]
      rfl

theorem steady_core (c : Commission) (b : Builder) : Steady (c.core b) := by
  cases c with
  | chain invalid =>
      apply Steady.bind (steady_generate _)
      intro pair
      apply steady_certificatesFrom
  | single valid selfSigned =>
      apply Steady.bind (steady_generate _)
      intro subject
      dsimp only
      split
      · exact .bind (.pure subject) fun _ => steady_issue _ _ _ _ _
      · exact .bind (steady_generate _) fun _ => steady_issue _ _ _ _ _

theorem steady_finish (c : Commission) (product : c.Product) : Steady (c.finish product) := by
  cases c with
  | chain invalid =>
      exact .bind (.ofExcept _) fun _ => .bind (.note _) fun _ => .bind (.ofExcept _) fun _ => .pure _
  | single valid selfSigned =>
      exact .bind (.ofExcept _) fun _ => .bind (.ofExcept _) fun _ => .bind (.note _) fun _ => .pure _

end Commission

/-! ## Two runs -/

/-- The builder with measuring switched on or off. -/
def Builder.watching (b : Builder) (measures : Bool) : Builder := { b with measures }

theorem certificatesFrom_watching (b : Builder) (measures : Bool) (invalid : Datum)
    (issuer subject : Rsa.KeyPair) (position : Nat) :
    (b.watching measures).certificatesFrom invalid issuer subject position =
      b.certificatesFrom invalid issuer subject position := by
  apply Builder.certificatesFrom_congr
  · rfl
  · rfl

theorem Commission.core_watching (c : Commission) (b : Builder) (measures : Bool) :
    c.core (b.watching measures) = c.core b := by
  cases c with
  | chain invalid =>
      simp only [core, certificatesFrom_watching]
      rfl
  | single valid selfSigned => rfl

/-- Two workshops with the same supplies, clock and engine, in which the engine was asked the same. -/
structure Alike (w v : Workshop) : Prop where
  keys_eq : v.keys = w.keys
  maker_eq : v.maker = w.maker
  serials_eq : v.serials = w.serials
  clock_eq : v.clock = w.clock
  readings_eq : v.readings = w.readings
  stamp_eq : v.stamp = w.stamp
  engine_eq : v.engine = w.engine
  registered_eq : v.registered = w.registered
  requests_eq : v.requests = w.requests

theorem alike_refit (w : Workshop) (seconds : List Binary64) (metrics : List Metric)
    (notes : List Log.Note) : Alike w (w.refit seconds metrics notes) :=
  ⟨rfl, rfl, rfl, rfl, rfl, rfl, rfl, rfl, rfl⟩

/-- What measuring adds to metrics and to notes: one of each, unless the commission is refused. -/
inductive Commission.Adds (c : Commission) : List Metric → List Log.Note → Prop where
  | refused (f : Fault) (refusal : c.check = .error f) : Adds c [] []
  | measured (m : Metric) (logged : Datum) (accepted : c.check = .ok ())
    (named : m.operation = .text c.operation) (logs : m.logged = .ok logged) :
    Adds c [m] [metricNote c.operation logged]

/-- How a watched run ends, beside the same run unwatched. Both began with the same notes, and the watched
    one with earlier metrics. -/
structure Transparent (c : Commission) (begun : List Log.Note) (earlier : List Metric)
    (plain watched : Except Fault Fixture × Workshop) : Prop where
  result_eq : watched.1 = plain.1
  alike : Alike plain.2 watched.2
  adds : ∃ before own after metrics, c.Adds metrics own ∧ watched.2.metrics = earlier ++ metrics ∧
    plain.2.notes = begun ++ (before ++ after) ∧ watched.2.notes = begun ++ (before ++ own ++ after)

section

variable (c : Commission) (b : Builder) (w : Workshop) (earlier : List Metric)

theorem Commission.work_unwatched : c.work (b.watching false) = (do
    Work.ofExcept c.check
    let product ← c.core b
    c.finish product) := by
  rw [c.work_eq, c.core_watching]
  rfl

theorem Commission.work_watched : c.work (b.watching true) = (do
    Work.ofExcept c.check
    let product ← (measured (.text c.operation) (.named c.extra) (c.core b) : Work c.Product)
    c.finish product) := by
  rw [c.work_eq, c.core_watching]
  rfl

variable {c}

theorem transparent_of_refused {f : Fault} (refusal : c.check = .error f) :
    Transparent c w.notes earlier ((c.work (b.watching false)).perform w)
      ((c.work (b.watching true)).perform { w with metrics := earlier }) := by
  simp only [c.work_unwatched, c.work_watched, Work.perform_bind, Work.perform_ofExcept, refusal]
  exact {
    result_eq := rfl
    alike := alike_refit w w.seconds earlier w.notes
    adds := ⟨[], [], [], [], .refused f refusal, by simp, by simp, by simp⟩ }

/-- Measured and unmeasured, the core of a commission comes to the same and leaves the same workshop but
    for stopwatch, metrics and notes. -/
theorem exists_perform_core (accepted : c.check = .ok ()) :
    ∃ r, ∃ u : Workshop, ∃ before m n, c.Adds [m] [n] ∧
    (c.core b).perform w = (r, u.refit w.seconds w.metrics (w.notes ++ before)) ∧
    (measured (.text c.operation) (.named c.extra) (c.core b) : Work c.Product).perform
        { w with metrics := earlier } =
      (r, u.refit (advanced (advanced w.seconds)) (earlier ++ [m]) (w.notes ++ before ++ [n])) := by
  obtain ⟨m, logged, metric, logs, run⟩ := exists_perform_measured c.operation
    (some (c.extra.map fun e => (.text e.1, e.2))) (c.core b) { w with metrics := earlier }
  have adds : c.Adds [m] [metricNote c.operation logged] :=
    .measured m logged accepted (by rw [metric]; rfl) logs
  obtain ⟨before, core⟩ := c.steady_core b w
  have plain := core w.seconds w.metrics w.notes
  have watched : (c.core b).perform (started { w with metrics := earlier }) = _ :=
    core (advanced w.seconds) earlier w.notes
  rw [Workshop.refit_self] at plain
  rw [watched] at run
  exact ⟨_, _, before, m, _, adds, plain, run⟩

theorem transparent_of_accepted (accepted : c.check = .ok ()) :
    Transparent c w.notes earlier ((c.work (b.watching false)).perform w)
      ((c.work (b.watching true)).perform { w with metrics := earlier }) := by
  obtain ⟨r, u, before, m, n, adds, plain, watched⟩ := exists_perform_core b w earlier accepted
  simp only [c.work_unwatched, c.work_watched, Work.perform_bind, Work.perform_ofExcept, accepted]
  rw [watched, plain]
  cases r with
  | error f =>
      exact {
        result_eq := rfl
        alike := alike_refit _ _ _ _
        adds := ⟨before, _, [], _, adds, rfl, by simp [Workshop.refit], by simp [Workshop.refit]⟩ }
  | ok product =>
      obtain ⟨after, finished⟩ := c.steady_finish product u
      simp only [finished]
      exact {
        result_eq := rfl
        alike := alike_refit _ _ _ _
        adds := ⟨before, _, after, _, adds, rfl, by simp [Workshop.refit], by simp [Workshop.refit]⟩ }

end

/-- Measuring a commission does not change its result, uses up and asks the same, and adds a metric and a note
    of it. -/
theorem measuring_transparent (c : Commission) (b : Builder) (w : Workshop) (earlier : List Metric) :
    Transparent c w.notes earlier ((c.work (b.watching false)).perform w)
      ((c.work (b.watching true)).perform { w with metrics := earlier }) := by
  cases checked : c.check with
  | error f => exact transparent_of_refused b w earlier checked
  | ok _ => exact transparent_of_accepted b w earlier checked

end CertMint.Mint
