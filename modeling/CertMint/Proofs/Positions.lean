import CertMint.Proofs.Currency
import Mathlib.Algebra.Order.Field.Rat
import Mathlib.Tactic.Linarith
import Mathlib.Tactic.NormNum

/-! # Numbers for positions

The position of the certificate that is to be expired may be given as any number. A number that lies outside
the chain is refused. A number inside is compared with the positions: the certificate whose position it
equals has the expired window, and if it lies between two positions no certificate has.
-/

namespace CertMint

/-! ## The values of numbers -/

namespace Binary64

/-- The number that the bits stand for, if that is finite. -/
def value? (x : Binary64) : Option ℚ :=
  match x.meaning with
  | .finite negative m q => some (signed negative m * (2 : ℚ) ^ q)
  | _ => none

end Binary64

namespace Datum

/-- Whether a datum is a number. Truth values are. -/
def isNumber : Datum → Bool
  | .int _ | .bool _ | .real _ => true
  | _ => false

/-- The number that a datum is, if that is finite. -/
def value? : Datum → Option ℚ
  | .int i => some i
  | .bool b => some (if b then 1 else 0)
  | .real x => x.value?
  | _ => Option.none

end Datum

/-- Integers compare as rational numbers do that lie in the same order. -/
theorem compare_eq_compare {a b : Int} {x y : ℚ} (lt : a < b ↔ x < y) (gt : b < a ↔ y < x) :
    compare a b = compare x y := by
  rcases lt_trichotomy a b with less | rfl | more
  · rw [compare_lt_iff_lt.mpr less, compare_lt_iff_lt.mpr (lt.mp less)]
  · have same : x = y := le_antisymm (not_lt.mp fun h => absurd (gt.mpr h) (lt_irrefl a))
      (not_lt.mp fun h => absurd (lt.mpr h) (lt_irrefl a))
    rw [compare_eq_iff_eq.mpr rfl, compare_eq_iff_eq.mpr same]
  · rw [compare_gt_iff_gt.mpr more, compare_gt_iff_gt.mpr (gt.mp more)]

theorem Binary64.compareInt?_eq {x : Binary64} {y : ℚ} (value : x.value? = some y) (i : Int) :
    x.compareInt? i = some (compare y i) := by
  unfold value? at value
  unfold compareInt?
  cases means : x.meaning with
  | nan =>
      rw [means] at value
      cases value
  | infinite negative =>
      rw [means] at value
      cases value
  | finite negative m q =>
      rw [means] at value
      obtain rfl := Option.some.inj value
      dsimp only
      -- what is compared are integers: the number or the integer was scaled by the power of two
      split
      · next whole =>
          obtain ⟨n, rfl⟩ := Int.eq_ofNat_of_zero_le whole
          have exact_ : ((signed negative m * (Nat.pow 2 n : Nat) : Int) : ℚ) =
              signed negative m * (2 : ℚ) ^ (n : Int) := by
            rw [zpow_natCast, Nat.pow_eq]
            push_cast
            rfl
          rw [← exact_, Int.toNat_natCast]
          exact congrArg some (compare_eq_compare Int.cast_lt.symm Int.cast_lt.symm)
      · next part =>
          obtain ⟨n, rfl⟩ : ∃ n : Nat, q = -(n : Int) := ⟨(-q).toNat, by omega⟩
          have positive : (0 : ℚ) < 2 ^ n := pow_pos (by decide) n
          have scaled : ((i * (Nat.pow 2 n : Nat) : Int) : ℚ) = i * 2 ^ n := by
            rw [Nat.pow_eq]
            push_cast
            rfl
          rw [zpow_neg, zpow_natCast, ← div_eq_mul_inv, neg_neg, Int.toNat_natCast]
          refine congrArg some (compare_eq_compare ?_ ?_)
          · rw [div_lt_iff₀ positive, ← scaled, Int.cast_lt]
          · rw [lt_div_iff₀ positive, ← scaled, Int.cast_lt]

namespace Datum

theorem compareInt?_eq {d : Datum} {y : ℚ} (value : d.value? = some y) (i : Int) :
    d.compareInt? i = some (some (compare y i)) := by
  have integer (j : Int) : compare j i = compare (j : ℚ) i :=
    compare_eq_compare Int.cast_lt.symm Int.cast_lt.symm
  cases d with
  | int j =>
      obtain rfl := Option.some.inj value
      exact congrArg (some <| some ·) (integer j)
  | bool b =>
      obtain rfl := Option.some.inj value
      rw [compareInt?, integer]
      cases b <;> rfl
  | real x => exact congrArg some (Binary64.compareInt?_eq value i)
  | _ => cases value

/-- A number without a value is in no order with an integer, or beyond all of them. -/
theorem compareInt?_of_value?_eq_none {d : Datum} (number : d.isNumber = true)
    (value : d.value? = Option.none) : ∃ o, o ≠ some .eq ∧ ∀ i, d.compareInt? i = some o := by
  cases d with
  | int j => cases value
  | bool b => cases value
  | real x =>
      have value : x.value? = Option.none := value
      unfold Binary64.value? at value
      simp only [compareInt?, Binary64.compareInt?]
      cases means : x.meaning with
      | nan => exact ⟨Option.none, by decide, fun _ => rfl⟩
      | infinite negative =>
          refine ⟨_, ?_, fun _ => rfl⟩
          cases negative <;> decide
      | finite negative m q =>
          rw [means] at value
          cases value
  | _ => cases number

/-- A position equals a number if it is the number's value. -/
theorem same_int {d : Datum} (number : d.isNumber = true) (i : Int) :
    same (.int i) d = decide (d.value? = some (i : ℚ)) := by
  have compared : same (.int i) d = decide (d.compareInt? i = some (some .eq)) := by
    have equal (j : Int) : i = j ↔ compare j i = .eq := by rw [compare_eq_iff_eq, eq_comm]
    cases d with
    | int j => simp [same, sameNumber?, int?, compareInt?, equal]
    | bool b => simp [same, sameNumber?, int?, compareInt?, equal]
    | real x => simp [same, sameNumber?, int?, compareInt?]
    | _ => cases number
  rw [compared, decide_eq_decide]
  cases value : d.value? with
  | none =>
      obtain ⟨o, unequal, compares⟩ := compareInt?_of_value?_eq_none number value
      rw [compares]
      exact iff_of_false (fun equal => unequal (Option.some.inj equal)) (Option.some_ne_none _).symm
  | some y =>
      rw [compareInt?_eq value]
      simp only [Option.some.injEq, compare_eq_iff_eq]

end Datum

namespace Mint

/-! ## Positions -/

namespace Builder

/-- Whether a datum is taken for a position is a matter of how it compares with two integers. -/
theorem checkPosition_eq {d : Datum} {o o' : Option Ordering} (zero : d.compareInt? 0 = some o)
    (length : d.compareInt? chainLength = some o') :
    checkPosition d = if (o = some .gt ∨ o = some .eq) ∧ o' = some .lt then .ok ()
      else .error (.of .value "invalid_position must be between 0 and 3") := by
  cases d with
  | none => cases zero
  | _ =>
      simp only [checkPosition, zero, length, Option.getD_some, pure_bind, Bool.and_eq_true, Bool.or_eq_true,
        decide_eq_true_eq]
      rfl

/-- A number with a value in the chain is taken for a position. -/
theorem checkPosition_of_inside {d : Datum} {y : ℚ} (value : d.value? = some y) (low : 0 ≤ y)
    (high : y < 4) : checkPosition d = .ok () := by
  have fromStart : compare y (0 : Int) = .gt ∨ compare y (0 : Int) = .eq := by
    rw [compare_gt_iff_gt, compare_eq_iff_eq]
    exact lt_or_eq_of_le' low
  have belowEnd : compare y (chainLength : Int) = .lt := compare_lt_iff_lt.mpr high
  rw [checkPosition_eq (Datum.compareInt?_eq value 0) (Datum.compareInt?_eq value chainLength), belowEnd]
  exact if_pos ⟨fromStart.imp (congrArg some) (congrArg some), rfl⟩

theorem checkPosition_of_outside {d : Datum} (number : d.isNumber = true)
    (outside : ∀ y, d.value? = some y → ¬ (0 ≤ y ∧ y < 4)) :
    checkPosition d = .error (.of .value "invalid_position must be between 0 and 3") := by
  cases value : d.value? with
  | none =>
      obtain ⟨o, -, compares⟩ := Datum.compareInt?_of_value?_eq_none number value
      rw [checkPosition_eq (compares 0) (compares chainLength), if_neg]
      -- one order with all integers cannot be above one of them and below another
      rintro ⟨above | equal, below⟩
      · cases above.symm.trans below
      · cases equal.symm.trans below
  | some y =>
      rw [checkPosition_eq (Datum.compareInt?_eq value 0) (Datum.compareInt?_eq value chainLength), if_neg]
      rintro ⟨fromStart, belowEnd⟩
      refine outside y value ⟨?_, compare_lt_iff_lt.mp (Option.some.inj belowEnd)⟩
      rcases fromStart with above | equal
      · exact le_of_lt (compare_gt_iff_gt.mp (Option.some.inj above))
      · exact ge_of_eq (compare_eq_iff_eq.mp (Option.some.inj equal))

end Builder

/-! ## Chains for numbers -/

/-- The certificate at a position was issued with the valid or with the expired window, as of the reading of
    the clock at its turn. -/
def Windowed (b : Builder) (w : Workshop) (chain : Chain) (i : Fin 4) (valid : Bool) : Prop :=
  ∃ issuer subject serial now, w.clock (w.readings + (3 - i)) = some now ∧
    IssuedAs b.forge issuer subject valid i serial now (chain.at_ i)

variable {b : Builder} {v : Datum} {w w' : Workshop} {chain : Chain}

theorem windowed_of_chain (built : (b.chain v).perform w = (.ok chain, w')) (i : Fin 4) :
    Windowed b w chain i (!Datum.same (.int i) v) :=
  exists_issuedAs_of_chain built i

/-- With accepted settings a certificate has only one of the windows, for they end at different times. -/
theorem Windowed.unique {i : Fin 4} {valid valid' : Bool} (accepted : b.forge.settings.Accepted)
    (h : Windowed b w chain i valid) (h' : Windowed b w chain i valid') : valid = valid' := by
  obtain ⟨_, _, _, now, shows, issued⟩ := h
  obtain ⟨_, _, _, now', shows', issued'⟩ := h'
  obtain rfl : now = now' := Option.some.inj (shows.symm.trans shows')
  have ends := (issued.exists_current_iff accepted (t := ⟨0, some 0⟩) rfl).1
  have ends' := (issued'.exists_current_iff accepted (t := ⟨0, some 0⟩) rfl).1
  have ended := cut_expired accepted (Int.le_refl now.instant)
  have open_ : now.instant ≤ cut now (Window.closing b.forge.settings true) := by
    obtain ⟨-, after⟩ := accepted.validNotAfter
    refine (cut_valid accepted (Int.le_refl now.instant) ?_).2
    simp only [day, second]
    omega
  cases valid <;> cases valid'
  · rfl
  · rw [ends] at ends'
    omega
  · rw [ends] at ends'
    omega
  · rfl

/-- A chain for a number. If the number lies outside the chain it is refused, and the workshop is as before.
    If it lies inside, exactly the certificate whose position it equals has the expired window. So, given
    accepted settings, all certificates have the valid window when it equals none, that is, when it lies
    between two positions. -/
theorem chain_of_number {r : Except Fault Chain} (number : v.isNumber = true)
    (run : (b.chain v).perform w = (r, w')) :
    ((∀ y, v.value? = some y → ¬ (0 ≤ y ∧ y < 4)) →
      r = .error (.of .value "invalid_position must be between 0 and 3") ∧ w' = w) ∧
    ∀ y, v.value? = some y → 0 ≤ y → y < 4 → ∀ chain, r = .ok chain →
      (∀ i : Fin 4, Windowed b w chain i (decide (y ≠ (i : ℕ)))) ∧
      (b.forge.settings.Accepted →
        ((∀ i, Windowed b w chain i true) ↔ ∀ i : Fin 4, y ≠ (i : ℕ))) := by
  refine ⟨fun outside => ?_, fun y value low high chain returned => ?_⟩
  · rw [Builder.chain, Work.perform_bind, Work.perform_ofExcept,
      Builder.checkPosition_of_outside number outside] at run
    obtain ⟨rfl, rfl⟩ := Prod.mk.inj run
    exact ⟨rfl, rfl⟩
  · rw [returned] at run
    have windowed (i : Fin 4) : Windowed b w chain i (decide (y ≠ (i : ℕ))) := by
      have own := windowed_of_chain run i
      simpa only [Datum.same_int number, value, ← decide_not, Int.cast_natCast, Option.some.injEq] using own
    refine ⟨windowed, fun accepted => ⟨fun all i => ?_, fun none_ i => ?_⟩⟩
    · exact of_decide_eq_true ((windowed i).unique accepted (all i))
    · rw [← decide_eq_true (none_ i)]
      exact windowed i

/-- In a chain for 2.0 exactly the certificate below the root has the expired window. -/
theorem chain_of_number_two :
    ∃ chain w', (defaultBuilder.chain (.real (.ofRatio false 2 1))).perform stockedWorkshop =
      (.ok chain, w') ∧ ∀ i : Fin 4, Windowed defaultBuilder stockedWorkshop chain i (decide (i ≠ 2)) := by
  have value : (Datum.real (.ofRatio false 2 1)).value? = some 2 := by
    have means : (Binary64.ofRatio false 2 1).meaning = .finite false (2 ^ 52) (-51) := by decide +kernel
    simp only [Datum.value?, Binary64.value?, means, Binary64.signed]
    norm_num
  obtain ⟨chain, w', built⟩ := supplied_stockedWorkshop.exists_chain able_defaultBuilder
    (Builder.checkPosition_of_inside value (by norm_num) (by norm_num))
  obtain ⟨-, inside⟩ := chain_of_number rfl built
  obtain ⟨windowed, -⟩ := inside 2 value (by norm_num) (by norm_num) chain rfl
  refine ⟨chain, w', built, fun i => ?_⟩
  have own := windowed i
  fin_cases i <;> simpa using own

/-! ### Between two positions -/

def threeAndAHalf : Datum := .real (.ofRatio false 7 2)

/-- It is the number of no certificate. A chain is built for it, and every certificate of the chain has the
    valid window. -/
theorem chain_of_threeAndAHalf :
    (∀ i : Fin 4, Datum.same (.int i) threeAndAHalf = false) ∧
    ∃ chain w', (defaultBuilder.chain threeAndAHalf).perform stockedWorkshop = (.ok chain, w') ∧
      ∀ i, Windowed defaultBuilder stockedWorkshop chain i true := by
  have unequal : ∀ i : Fin 4, Datum.same (.int i) threeAndAHalf = false := by decide +kernel
  have checked : Builder.checkPosition threeAndAHalf = .ok () := by
    have above : threeAndAHalf.compareInt? 0 = some (some .gt) := by decide +kernel
    have below : threeAndAHalf.compareInt? chainLength = some (some .lt) := by decide +kernel
    rw [Builder.checkPosition_eq above below, if_pos ⟨.inl rfl, rfl⟩]
  obtain ⟨chain, w', built⟩ := supplied_stockedWorkshop.exists_chain able_defaultBuilder checked
  refine ⟨unequal, chain, w', built, fun i => ?_⟩
  have own := windowed_of_chain built i
  rwa [unequal] at own

end Mint

end CertMint
