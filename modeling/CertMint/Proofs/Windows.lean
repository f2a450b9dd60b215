import CertMint.Mint.Window
import CertMint.Proofs.Calendar
import CertMint.Proofs.Work

/-! # Windows of accepted settings

Accepted settings give whole numbers of days, so that their windows are shifts of now by these days.
Such a window is there unless one of its ends leaves the years 1 to 9999, and there is no other fault.
-/

namespace CertMint

/-! ## Accepted settings -/

namespace Settings

/-- The days in a field. -/
def days (s : Settings) (f : Field) : Int := (s.get f).int?.getD 0

/-- What is known of settings that were accepted. -/
structure Accepted (s : Settings) : Prop where
  keySize : ∃ i, s.keySize = .int i ∧ minimumKeySize ≤ i
  publicExponent : ∃ i ∈ publicExponents, Datum.same s.publicExponent (.int i) = true
  signatureHash : ∃ name ∈ signatureHashes, s.signatureHash = .text name
  validNotBefore : s.validNotBefore.int? = some (s.days .validNotBefore) ∧ 0 ≤ s.days .validNotBefore
  validNotAfter : s.validNotAfter.int? = some (s.days .validNotAfter) ∧ 0 < s.days .validNotAfter
  expiredNotAfter : s.expiredNotAfter.int? = some (s.days .expiredNotAfter) ∧
    0 < s.days .expiredNotAfter
  expiredNotBefore : s.expiredNotBefore.int? = some (s.days .expiredNotBefore) ∧
    s.days .expiredNotAfter < s.days .expiredNotBefore

theorem isAbove_eq_true {bound : Int} {d : Datum} :
    isAbove bound d = true ↔ ∃ i, d.int? = some i ∧ bound < i := by
  unfold isAbove
  cases d.int? <;> simp

theorem isAboveOther_eq_true {other d : Datum} :
    isAboveOther other d = true ↔ ∃ bound i, other.int? = some bound ∧ d.int? = some i ∧ bound < i := by
  unfold isAboveOther
  cases other.int? <;> simp [isAbove_eq_true]

theorem eq_text_of_same {d : Datum} {name : String} (h : Datum.same d (.text name) = true) :
    d = .text name := by
  cases d <;> simp_all [Datum.same, Datum.sameNumber?, Datum.int?]

theorem eq_int_of_isAbove {bound : Int} {d : Datum} (h : isAbove bound d = true) (positive : 0 < bound) :
    ∃ i, d = .int i ∧ bound < i := by
  obtain ⟨i, isInt, above⟩ := isAbove_eq_true.mp h
  cases d with
  | int j => exact ⟨i, congrArg Datum.int (Option.some.inj isInt), above⟩
  | bool b =>
      have : i ≤ 1 := by
        obtain rfl := Option.some.inj isInt
        split <;> omega
      omega
  | _ => cases isInt

theorem of_unless {p : Bool} {f : Flaw} {rest : Option Flaw}
    (h : (if !p then some f else rest) = none) : p = true ∧ rest = none := by
  cases p with
  | true => exact ⟨rfl, h⟩
  | false => cases h

theorem accepted_of_flaw? {s : Settings} (h : s.flaw? = none) : s.Accepted := by
  obtain ⟨keySize, h⟩ := of_unless h
  obtain ⟨publicExponent, h⟩ := of_unless h
  obtain ⟨signatureHash, h⟩ := of_unless h
  obtain ⟨validNotBefore, h⟩ := of_unless h
  obtain ⟨validNotAfter, h⟩ := of_unless h
  obtain ⟨expiredNotAfter, h⟩ := of_unless h
  obtain ⟨expiredNotBefore, -⟩ := of_unless h
  obtain ⟨size, isSize, enough⟩ := eq_int_of_isAbove keySize (by decide)
  obtain ⟨name, member, same⟩ := List.any_eq_true.mp signatureHash
  obtain ⟨vb, vbInt, vbBound⟩ := isAbove_eq_true.mp validNotBefore
  obtain ⟨va, vaInt, vaBound⟩ := isAbove_eq_true.mp validNotAfter
  obtain ⟨ea, eaInt, eaBound⟩ := isAbove_eq_true.mp expiredNotAfter
  obtain ⟨bound, eb, boundInt, ebInt, ebBound⟩ := isAboveOther_eq_true.mp expiredNotBefore
  obtain rfl := Option.some.inj (eaInt.symm.trans boundInt)
  exact {
    keySize := ⟨size, isSize, by omega⟩
    publicExponent := List.any_eq_true.mp publicExponent
    signatureHash := ⟨name, member, eq_text_of_same same⟩
    validNotBefore := by simp only [days, get, vbInt, Option.getD_some, true_and]; omega
    validNotAfter := by simp only [days, get, vaInt, Option.getD_some, true_and]; omega
    expiredNotAfter := by simp only [days, get, eaInt, Option.getD_some, true_and]; omega
    expiredNotBefore := by simp only [days, get, eaInt, ebInt, Option.getD_some, true_and]; omega }

/-- Settings that pass the check are the settings that were given, and are accepted. -/
theorem accepted_of_check {s checked : Settings} (h : s.check = .ok checked) :
    checked = s ∧ s.Accepted := by
  unfold check at h
  split at h
  · next sound => exact ⟨(Except.ok.inj h).symm, accepted_of_flaw? sound⟩
  · cases h

end Settings

/-! ## Shifts by days -/

namespace Mint.Window

variable {m : Moment} {d : Datum} {i : Int}

theorem daysOf_of_int? (isInt : d.int? = some i) : daysOf d = spanOf (i * day) := by
  unfold daysOf
  split
  · next j _ eq => rw [Option.some.inj (eq.symm.trans isInt)]
  · next eq => cases eq.symm.trans isInt
  · next eq => cases eq.symm.trans isInt

/-- A number of days is a span, unless it is more than any two moments are apart. -/
theorem spanOf_mul_day (i : Int) :
    spanOf (i * day) = .ok (i * day) ∨
      ∃ e, spanOf (i * day) = .error e ∧ e.kind = .overflow ∧ (i < -maxDays ∨ maxDays < i) := by
  have whole : i * day / day = i := Int.mul_ediv_cancel i (by decide)
  simp only [spanOf, whole]
  split
  · exact .inr ⟨_, rfl, rfl, by simp only [maxDays]; omega⟩
  · split
    · next long => exact .inr ⟨_, rfl, rfl, long⟩
    · exact .inl rfl

/-- No moment of the years 1 to 9999 is so many days from another one. -/
theorem inYears_of_long (known : Moment.inYears m.clock = true) (long : i < -maxDays ∨ maxDays < i) :
    Moment.inYears (m.clock + i * day) = false ∧ Moment.inYears (m.clock + -(i * day)) = false := by
  simp only [Bool.eq_false_iff, ne_eq, Moment.inYears_iff, maxDays, day, second] at known long ⊢
  omega

/-- What shifting a moment gives: the moment shifted, if that is in the years 1 to 9999, and otherwise
    an overflow. -/
def Shifted (m : Moment) (span : Int) (r : Except Fault Moment) : Prop :=
  (r = .ok ⟨m.clock + span, m.offset⟩ ∧ Moment.inYears (m.clock + span) = true) ∨
    ∃ e, r = .error e ∧ e.kind = .overflow ∧
      (Moment.inYears m.clock = true → Moment.inYears (m.clock + span) = false)

theorem shifted_add? (m : Moment) (span : Int) :
    Shifted m span (match m.add? span with
      | some m => .ok m
      | none => .error Work.outOfYears) := by
  rw [Moment.add?]
  cases inside : Moment.inYears (m.clock + span) with
  | true => exact .inl ⟨rfl, inside⟩
  | false => exact .inr ⟨_, rfl, rfl, fun _ => inside⟩

theorem shifted_later (isInt : d.int? = some i) : Shifted m (i * day) (later m d) := by
  rw [later, daysOf_of_int? isInt]
  rcases spanOf_mul_day i with eq | ⟨e, eq, kind, long⟩
  · rw [eq, ok_bind]
    exact shifted_add? m (i * day)
  · rw [eq]
    exact .inr ⟨e, rfl, kind, fun known => (inYears_of_long known long).1⟩

theorem shifted_earlier (isInt : d.int? = some i) : Shifted m (-(i * day)) (earlier m d) := by
  rw [earlier, daysOf_of_int? isInt]
  rcases spanOf_mul_day i with eq | ⟨e, eq, kind, long⟩
  · rw [eq, ok_bind]
    exact shifted_add? m (-(i * day))
  · rw [eq]
    exact .inr ⟨e, rfl, kind, fun known => (inYears_of_long known long).2⟩

/-! ## Windows -/

/-- How far the first moment of the valid or of the expired window lies from now. -/
def opening (s : Settings) (valid : Bool) : Int :=
  if valid then -(s.days .validNotBefore * day) else -(s.days .expiredNotBefore * day)

/-- How far the last moment of the valid or of the expired window lies from now. -/
def closing (s : Settings) (valid : Bool) : Int :=
  if valid then s.days .validNotAfter * day else -(s.days .expiredNotAfter * day)

/-- A window is that of settings as of now if its ends are shifts of now by the settings' days. -/
structure Follows (s : Settings) (valid : Bool) (now : Moment) (window : Window) : Prop where
  notBefore_eq : window.notBefore = ⟨now.clock + opening s valid, now.offset⟩
  notAfter_eq : window.notAfter = ⟨now.clock + closing s valid, now.offset⟩
  opening_inYears : Moment.inYears (now.clock + opening s valid) = true
  closing_inYears : Moment.inYears (now.clock + closing s valid) = true

/-- As of a moment of universal time, the ends of a window are moments of universal time. -/
theorem Follows.toUniversal? {s : Settings} {valid : Bool} {now : Moment} {window : Window}
    (follows : Follows s valid now window) (universal : now.offset = some 0) :
    window.notBefore.toUniversal? = some window.notBefore ∧
      window.notAfter.toUniversal? = some window.notAfter := by
  constructor
  · apply Moment.toUniversal?_of_universal
    · rw [follows.notBefore_eq, universal]
    · rw [follows.notBefore_eq, follows.opening_inYears]
  · apply Moment.toUniversal?_of_universal
    · rw [follows.notAfter_eq, universal]
    · rw [follows.notAfter_eq, follows.closing_inYears]

theorem opening_lt_closing {s : Settings} (accepted : s.Accepted) (valid : Bool) :
    opening s valid < closing s valid := by
  obtain ⟨-, vb⟩ := accepted.validNotBefore
  obtain ⟨-, va⟩ := accepted.validNotAfter
  obtain ⟨-, ea⟩ := accepted.expiredNotAfter
  obtain ⟨-, eb⟩ := accepted.expiredNotBefore
  cases valid <;> simp only [opening, closing, day, second, Bool.false_eq_true, if_false, if_true] <;>
    omega

/-- A valid window begins now at the latest and ends later. -/
theorem opening_le_and_lt_closing {s : Settings} (accepted : s.Accepted) :
    opening s true ≤ 0 ∧ 0 < closing s true := by
  obtain ⟨-, before⟩ := accepted.validNotBefore
  obtain ⟨-, after⟩ := accepted.validNotAfter
  simp only [opening, closing, if_true, day, second]
  omega

/-- An expired window ended before now. -/
theorem closing_lt {s : Settings} (accepted : s.Accepted) : closing s false < 0 := by
  obtain ⟨-, after⟩ := accepted.expiredNotAfter
  simp only [closing, Bool.false_eq_true, if_false, day, second]
  omega

theorem of_lt {first last : Int} (offset : Option Int) (h : first < last) :
    ∃ window, of ⟨first, offset⟩ ⟨last, offset⟩ = .ok window ∧
      window.notBefore = ⟨first, offset⟩ ∧ window.notAfter = ⟨last, offset⟩ := by
  have ordered : Moment.compare? ⟨first, offset⟩ ⟨last, offset⟩ = some .lt := by
    cases offset with
    | none => exact congrArg some (Int.compare_eq_lt.mpr h)
    | some p => exact congrArg some (Int.compare_eq_lt.mpr (Int.sub_lt_sub_right h p))
  exact ⟨⟨_, _, ordered⟩, dif_pos ordered, rfl, rfl⟩

/-- Accepted settings have the window that they say, unless an end of it overflows. -/
theorem ofSettings_of_accepted {s : Settings} (accepted : s.Accepted) (valid : Bool) (now : Moment) :
    (∃ window, ofSettings s valid now = .ok window ∧ Follows s valid now window) ∨
      ∃ e, ofSettings s valid now = .error e ∧ e.kind = .overflow ∧
        (Moment.inYears now.clock = true → Moment.inYears (now.clock + opening s valid) = false ∨
          Moment.inYears (now.clock + closing s valid) = false) := by
  obtain ⟨first, last, eq, begins, ends⟩ : ∃ first last, ofSettings s valid now =
      (do of (← first) (← last)) ∧ Shifted now (opening s valid) first ∧
        Shifted now (closing s valid) last := by
    cases valid with
    | true => exact ⟨_, _, rfl, shifted_earlier accepted.validNotBefore.1,
        shifted_later accepted.validNotAfter.1⟩
    | false => exact ⟨_, _, rfl, shifted_earlier accepted.expiredNotBefore.1,
        shifted_earlier accepted.expiredNotAfter.1⟩
  rw [eq]
  rcases begins with ⟨begins, firstIn⟩ | ⟨e, fails, kind, out⟩
  · rcases ends with ⟨ends, lastIn⟩ | ⟨e, fails, kind, out⟩
    · obtain ⟨window, made, notBefore, notAfter⟩ :=
        of_lt now.offset (Int.add_lt_add_left (opening_lt_closing accepted valid) now.clock)
      rw [begins, ends]
      exact .inl ⟨window, made, notBefore, notAfter, firstIn, lastIn⟩
    · rw [begins, fails]
      exact .inr ⟨e, rfl, kind, fun known => .inr (out known)⟩
  · rw [fails]
    exact .inr ⟨e, rfl, kind, fun known => .inl (out known)⟩

theorem follows_of_ofSettings {s : Settings} {valid : Bool} {now : Moment} {window : Window}
    (accepted : s.Accepted) (made : ofSettings s valid now = .ok window) :
    Follows s valid now window := by
  rcases ofSettings_of_accepted accepted valid now with ⟨_, made', follows⟩ | ⟨_, fails, _, _⟩
  · cases made.symm.trans made'
    exact follows
  · cases made.symm.trans fails

theorem outside_of_ofSettings {s : Settings} {valid : Bool} {now : Moment} {e : Fault}
    (accepted : s.Accepted) (known : Moment.inYears now.clock = true)
    (fails : ofSettings s valid now = .error e) :
    e.kind = .overflow ∧ (Moment.inYears (now.clock + opening s valid) = false ∨
      Moment.inYears (now.clock + closing s valid) = false) := by
  rcases ofSettings_of_accepted accepted valid now with ⟨_, made, _⟩ | ⟨_, fails', kind, outside⟩
  · cases made.symm.trans fails
  · cases fails.symm.trans fails'
    exact ⟨kind, outside known⟩

end Mint.Window

end CertMint
