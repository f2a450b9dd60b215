import CertMint.Proofs.ReadBack
import CertMint.Proofs.Windows

/-! # What the windows of settings hold

The ends of a window lie some days before or after now, on the clock that now is read from. A valid window
begins now or earlier and ends later; an expired one ended earlier. That the first end is before the last
is checked when a window is made, but for accepted settings the check never fails.
-/

namespace CertMint

theorem Moment.lt_of_compare? {a b : Moment} (h : a.compare? b = some .lt) :
    b.offset.isSome = a.offset.isSome ∧ a.instant < b.instant := by
  cases first : a.offset <;> cases second : b.offset <;>
    simp_all [Moment.compare?, Moment.instant, Int.compare_eq_lt]

namespace Mint.Window

variable {s : Settings} {valid : Bool} {now m : Moment} {window : Window}

namespace Follows

theorem instant_notBefore (h : Follows s valid now window) :
    window.notBefore.instant = now.instant + opening s valid := by
  simp only [h.notBefore_eq, Moment.instant]
  omega

theorem instant_notAfter (h : Follows s valid now window) :
    window.notAfter.instant = now.instant + closing s valid := by
  simp only [h.notAfter_eq, Moment.instant]
  omega

/-- What can be compared with now lies in the window if its distance from now lies between those of the
    ends. -/
theorem contains_eq (h : Follows s valid now window) (alike : m.offset.isSome = now.offset.isSome) :
    window.contains m = .ok (decide (now.instant + opening s valid ≤ m.instant ∧
      m.instant ≤ now.instant + closing s valid)) := by
  rw [← h.instant_notBefore, ← h.instant_notAfter]
  apply between_of_alike
  · rw [h.notBefore_eq, alike]
  · rw [h.notAfter_eq, alike]

/-- Now lies in the valid window and not in the expired one. -/
theorem contains_now (h : Follows s valid now window) (accepted : s.Accepted) :
    window.contains now = .ok valid := by
  rw [h.contains_eq rfl]
  cases valid with
  | true =>
      obtain ⟨began, ends⟩ := opening_le_and_lt_closing accepted
      have inside : now.instant + opening s true ≤ now.instant ∧
          now.instant ≤ now.instant + closing s true := by omega
      simp [inside]
  | false =>
      have ended := closing_lt accepted
      have late : ¬ now.instant ≤ now.instant + closing s false := by omega
      simp [late]

theorem contains_later (h : Follows s false now window) (accepted : s.Accepted)
    (later : now.compare? m = some .lt) : window.contains m = .ok false := by
  obtain ⟨alike, after⟩ := Moment.lt_of_compare? later
  have ended := closing_lt accepted
  have late : ¬ m.instant ≤ now.instant + closing s false := by omega
  rw [h.contains_eq alike]
  simp [late]

end Follows

/-- Accepted settings have a window as of every moment, unless an end of it leaves the years 1 to 9999 of
    the moment's own clock: then, and for no other reason, there is an overflow. The ends are as many days
    from now as the settings say, the first before the last; now lies in the valid window, and neither now
    nor anything later in the expired one. -/
theorem ofSettings_holds (checked : s.check = .ok s) (known : Moment.inYears now.clock = true)
    (valid : Bool) :
    (Moment.inYears (now.clock + opening s valid) = true →
      Moment.inYears (now.clock + closing s valid) = true →
        ∃ window, ofSettings s valid now = .ok window ∧
          window.notBefore = ⟨now.clock + opening s valid, now.offset⟩ ∧
          window.notAfter = ⟨now.clock + closing s valid, now.offset⟩ ∧
          window.notBefore.compare? window.notAfter = some .lt ∧
          window.contains now = .ok valid ∧
          (valid = false → ∀ m, now.compare? m = some .lt → window.contains m = .ok false)) ∧
    (Moment.inYears (now.clock + opening s valid) = false ∨
        Moment.inYears (now.clock + closing s valid) = false →
      ∃ e, ofSettings s valid now = .error e ∧ e.kind = .overflow) := by
  obtain ⟨-, accepted⟩ := Settings.accepted_of_check checked
  rcases ofSettings_of_accepted accepted valid now with ⟨window, made, follows⟩ | ⟨e, fails, kind, out⟩
  · constructor
    · intro _ _
      refine ⟨window, made, follows.notBefore_eq, follows.notAfter_eq, window.ordered,
        follows.contains_now accepted, ?_⟩
      rintro rfl m later
      exact follows.contains_later accepted later
    · rintro (outside | outside)
      · cases outside.symm.trans follows.opening_inYears
      · cases outside.symm.trans follows.closing_inYears
  · constructor
    · intro first last
      rcases out known with outside | outside
      · cases outside.symm.trans first
      · cases outside.symm.trans last
    · intro _
      exact ⟨e, fails, kind⟩

/-- The first day of the last month that there is, without offset. -/
def lastMonth : Moment := Moment.ofDate ⟨9999, 12, 1⟩ 0 none

/-- As of the last month there is an expired window of the default settings, and the valid one overflows. -/
theorem ofSettings_holds_lastMonth :
    (∃ e, ofSettings {} true lastMonth = .error e ∧ e.kind = .overflow) ∧
      ∃ window, ofSettings {} false lastMonth = .ok window ∧ window.contains lastMonth = .ok false := by
  have known : Moment.inYears lastMonth.clock = true := rfl
  obtain ⟨-, overflows⟩ := ofSettings_holds (s := {}) rfl known true
  obtain ⟨holds, -⟩ := ofSettings_holds (s := {}) rfl known false
  obtain ⟨window, made, -, -, -, outside, -⟩ := holds rfl rfl
  exact ⟨overflows (.inr rfl), window, made, outside⟩

end Mint.Window

end CertMint
