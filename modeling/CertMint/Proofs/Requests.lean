import CertMint.Proofs.Registration

/-! # Requests with accepted settings

Settings are accepted for the values of their fields; the engine also looks at the kinds of what it is asked
with, and what makes the key pairs does not make them of every size. A facade of accepted settings is wired
with every registered engine that has the SHA-2 algorithms. A request for a key pair of a size that is made
gets as far as the supply of keys, unless the public exponent is a floating-point number: such a number is
equal to 3 or 65537 where settings have one, and the engine refuses it all the same.
-/

namespace CertMint

theorem Settings.Accepted.exponent_cases {s : Settings} (accepted : s.Accepted) :
    (∃ i, s.publicExponent = .int i) ∨ ∃ x, s.publicExponent = .real x := by
  obtain ⟨i, member, same⟩ := accepted.publicExponent
  cases exponent : s.publicExponent with
  | int j => exact .inl ⟨j, rfl⟩
  | real x => exact .inr ⟨x, rfl⟩
  | bool b =>
      -- a truth value is 0 or 1, which is neither 3 nor 65537
      have other : ∀ b, ∀ i ∈ publicExponents, Datum.same (.bool b) (.int i) = false := by decide
      rw [exponent, other b i member] at same
      cases same
  | _ =>
      rw [exponent] at same
      simp [Datum.same, Datum.sameNumber?, Datum.int?] at same

namespace Mint

variable {s : Settings}

/-- The workshop after the engine was asked for a key pair with the settings. -/
def asked (s : Settings) (w : Workshop) : Workshop :=
  { w with requests := w.requests ++ [(s.keySize, s.publicExponent)] }

/-- The engine serves requests with the settings: each ends as a draw from the supply of keys does. -/
def Served (maker : KeyMaker) (s : Settings) : Prop :=
  ∀ w, w.maker = maker →
    (request s.keySize s.publicExponent).perform w = Work.drawKey.perform (asked s w)

theorem served_iff (maker : KeyMaker) :
    Served maker s ↔ checkRequest maker s.keySize s.publicExponent = .ok () := by
  constructor
  · intro served
    -- where there are keys, a refusal is not what a draw ends with
    have ends := served { stockedWorkshop with maker } rfl
    rw [perform_request, Work.perform_drawKey] at ends
    cases check : checkRequest maker s.keySize s.publicExponent with
    | ok => rfl
    | error f =>
        rw [check] at ends
        cases (Prod.mk.inj ends).1
  · intro accepts w isMaker
    subst isMaker
    rw [perform_request, accepts]
    rfl

/-- A key pair is then made from the next entry of the supply. -/
theorem Served.keys_generate {w : Workshop} (served : Served w.maker s) :
    ((generate s).perform w).2.keys = w.keys.tail := by
  rw [perform_generate, (served_iff w.maker).mp served]
  rcases w.keys with _ | ⟨_ | _, rest⟩ <;> rfl

theorem perform_generate_of_refused {w : Workshop} {f : Fault}
    (refused : checkRequest w.maker s.keySize s.publicExponent = .error f) :
    (generate s).perform w = (.error (generationFault f), asked s w) := by
  rw [perform_generate, refused]
  rfl

/-- The fault of making a key pair with an exponent that is a floating-point number. -/
def realExponentFault : Fault :=
  (Fault.operationFailed "key generation" "'float' object cannot be interpreted as an integer").causedBy
    (.of .type "'float' object cannot be interpreted as an integer")

/-- With accepted settings a facade is wired, and the engine serves requests for key pairs exactly when
    the public exponent is an integer and the size is not too large for what makes the key pairs. Otherwise no
    key pair is made and the supply of keys is as before: the exponent is a floating-point number, and the
    engine refuses it, or what makes the key pairs refuses the size. -/
theorem served_iff_exponent_size (checked : s.check = .ok s) :
    ∃ size, s.keySize = .int size ∧
    (∀ (w : Workshop) (e : Engine) (measures : Bool), w.registered = true → w.engine = .ok e →
      (∀ a ∈ Rsa.sha2Algorithms, e.supports a = true) → ∃ digest, s.signatureHash = .text digest.key ∧
        (Facade.wire s measures).perform w = (.ok ⟨s, digest, measures⟩, w)) ∧
    (∀ maker, Served maker s ↔ (∃ i, s.publicExponent = .int i) ∧ size ≤ maker.largest.val) ∧
    (∀ w, Served w.maker s → ((generate s).perform w).2.keys = w.keys.tail) ∧
    ∀ w, ¬ Served w.maker s →
      (∃ x, s.publicExponent = .real x) ∧ (generate s).perform w = (.error realExponentFault, asked s w) ∨
      (∃ i, s.publicExponent = .int i) ∧ w.maker.largest.val < size ∧
        (generate s).perform w = (.error (generationFault (w.maker.refusal size)), asked s w) := by
  obtain ⟨-, accepted⟩ := Settings.accepted_of_check checked
  obtain ⟨size, isSize, -⟩ := accepted.keySize
  have check (maker : KeyMaker) := checkRequest_of_accepted accepted maker isSize
  refine ⟨size, isSize, ?_, fun maker => ?_, fun w served => served.keys_generate, fun w refused => ?_⟩
  · intro w e measures registered there supports
    obtain ⟨digest, -, wired⟩ := exists_perform_wire accepted measures registered there supports
    exact ⟨digest, wired⟩
  · rw [served_iff, check]
    rcases accepted.exponent_cases with ⟨i, isInt⟩ | ⟨x, isReal⟩
    · simp only [isInt, Datum.int.injEq, exists_eq', true_and]
      split
      · next large => exact iff_of_false (fun no => by cases no) (Int.not_le.mpr large)
      · next fits => exact iff_of_true rfl (Int.not_lt.mp fits)
    · simp only [isReal, reduceCtorEq, exists_false, false_and]
  · rw [served_iff] at refused
    rcases accepted.exponent_cases with ⟨i, isInt⟩ | ⟨x, isReal⟩
    · have checked : checkRequest w.maker s.keySize s.publicExponent =
          if w.maker.largest.val < size then .error (w.maker.refusal size) else .ok () := by
        rw [check, isInt]
      by_cases large : w.maker.largest.val < size
      · rw [if_pos large] at checked
        exact .inr ⟨⟨i, isInt⟩, large, perform_generate_of_refused checked⟩
      · rw [if_neg large] at checked
        exact absurd checked refused
    · have checked : checkRequest w.maker s.keySize s.publicExponent =
          .error (.of .type "'float' object cannot be interpreted as an integer") := by
        rw [check, isReal]
        rfl
      exact .inl ⟨⟨x, isReal⟩, perform_generate_of_refused checked⟩

theorem served_iff_exponent_size_default :
    ({} : Settings).check = .ok {} ∧ Served .ofWord {} ∧
    ∃ f, (Facade.wire {} true).perform stockedWorkshop = (.ok f, stockedWorkshop) := by
  have checked : ({} : Settings).check = .ok {} := rfl
  obtain ⟨size, isSize, wires, served, -, -⟩ := served_iff_exponent_size checked
  obtain rfl : 1024 = size := Datum.int.inj isSize
  obtain ⟨digest, -, wired⟩ := wires stockedWorkshop _ true rfl rfl fun _ _ => rfl
  exact ⟨checked, (served .ofWord).mpr ⟨⟨65537, rfl⟩, by decide⟩, _, wired⟩

/-! ### Three, as a floating-point number -/

def realExponent : Settings := { publicExponent := .real (.ofInt 3) }

/-- It is accepted and a facade is wired. There are keys in the supply, and none is made. -/
theorem realExponent_not_served :
    realExponent.check = .ok realExponent ∧
    (∃ f, (Facade.wire realExponent true).perform stockedWorkshop = (.ok f, stockedWorkshop)) ∧
    ¬ Served stockedWorkshop.maker realExponent ∧ stockedWorkshop.keys ≠ [] ∧
    ∃ w, (generate realExponent).perform stockedWorkshop = (.error realExponentFault, w) ∧
      w.keys = stockedWorkshop.keys := by
  have sound : realExponent.flaw? = none := by decide +kernel
  have checked : realExponent.check = .ok realExponent := by rw [Settings.check, sound]
  obtain ⟨-, accepted⟩ := Settings.accepted_of_check checked
  obtain ⟨digest, -, -, wired⟩ :=
    exists_perform_wire accepted true (w := stockedWorkshop) rfl rfl fun _ _ => rfl
  have refused : checkRequest stockedWorkshop.maker realExponent.keySize realExponent.publicExponent =
      .error (.of .type "'float' object cannot be interpreted as an integer") :=
    checkRequest_of_accepted accepted _ rfl
  refine ⟨checked, ⟨_, wired⟩, ?_, List.cons_ne_nil _ _, asked realExponent stockedWorkshop, ?_, rfl⟩
  · intro served
    cases refused.symm.trans ((served_iff _).mp served)
  · exact perform_generate_of_refused refused

end Mint

end CertMint
