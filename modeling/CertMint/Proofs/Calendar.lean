import CertMint.Time.Moment
import Mathlib.Algebra.Ring.Nat

/-! # Dates and digits

The date of a day exists in the calendar and is that of no other day, since it leads back to the day;
later days have no earlier years. Numbers padded to a width are read back from that width.
-/

namespace CertMint.Calendar

/-! ## Years -/

/-- The days of a year. -/
def yearLength (year : Nat) : Nat := if isLeap year then 366 else 365

/-- A year has a day more when it ends a cycle of 4 or of 400 years, and a day less when it ends a
    century. -/
theorem yearLength_eq (year : Nat) :
    yearLength year + (if year % 100 = 0 then 1 else 0) =
      365 + (if year % 4 = 0 then 1 else 0) + if year % 400 = 0 then 1 else 0 := by
  simp only [yearLength, isLeap, ne_eq, Bool.and_eq_true, Bool.or_eq_true, decide_eq_true_eq]
  split <;> split <;> split <;> split <;> omega

theorem daysBeforeYear_succ (y : Nat) :
    daysBeforeYear (y + 1 + 1) = daysBeforeYear (y + 1) + yearLength (y + 1) := by
  have cycle (length : Nat) (positive : 0 < length) :
      (y + 1) / length = y / length + if (y + 1) % length = 0 then 1 else 0 := by
    rw [Nat.succ_div]
    simp only [Nat.dvd_iff_mod_eq_zero]
  have fourth := cycle 4 (by decide)
  have hundredth := cycle 100 (by decide)
  have last := cycle 400 (by decide)
  have length := yearLength_eq (y + 1)
  simp only [daysBeforeYear, Nat.add_sub_cancel]
  omega

theorem daysBeforeYear_le {a b : Nat} (h : a ≤ b) : daysBeforeYear a ≤ daysBeforeYear b := by
  induction h with
  | refl => exact Nat.le_refl _
  | @step b _ ih =>
      cases b with
      | zero => exact ih
      | succ y =>
          rw [Nat.succ_eq_add_one, daysBeforeYear_succ]
          omega

/-- A day in cycles of 400, 100 and 4 years and in years. Only the last year of a cycle of four has a
    day 365, and not where that year ends a century, unless it ends the fourth. -/
private theorem yearOf_parts (n : Nat) :
    ∃ era century olympiad year day,
      yearOf n = (400 * era + 100 * century + 4 * olympiad + year + 1, day) ∧
      century ≤ 3 ∧ olympiad ≤ 24 ∧ year ≤ 3 ∧ day ≤ 365 ∧
      (day = 365 → year = 3 ∧ (olympiad = 24 → century = 3)) ∧
      146097 * era + 36524 * century + 1461 * olympiad + 365 * year + day = n := by
  refine ⟨_, _, _, _, _, rfl, ?_⟩
  have inEra : n % 146097 < 146097 := Nat.mod_lt _ (by omega)
  have era : 146097 * (n / 146097) + n % 146097 = n := Nat.div_add_mod n 146097
  generalize n % 146097 = e at inEra era ⊢
  generalize n / 146097 = eras at era ⊢
  obtain ⟨c, hc⟩ : ∃ c, min (e / 36524) 3 = c := ⟨_, rfl⟩
  obtain ⟨inCentury, hi⟩ : ∃ i, e - 36524 * c = i := ⟨_, rfl⟩
  have century : c ≤ 3 ∧ 36524 * c + inCentury = e ∧ inCentury ≤ 36524 ∧ (inCentury = 36524 → c = 3) := by
    omega
  rw [hc, hi]
  obtain ⟨o, ho⟩ : ∃ o, inCentury / 1461 = o := ⟨_, rfl⟩
  obtain ⟨inOlympiad, hio⟩ : ∃ i, inCentury % 1461 = i := ⟨_, rfl⟩
  have olympiad : o ≤ 24 ∧ 1461 * o + inOlympiad = inCentury ∧ inOlympiad ≤ 1460 := by omega
  rw [ho, hio]
  obtain ⟨y, hy⟩ : ∃ y, min (inOlympiad / 365) 3 = y := ⟨_, rfl⟩
  obtain ⟨d, hd⟩ : ∃ d, inOlympiad - 365 * y = d := ⟨_, rfl⟩
  have year : y ≤ 3 ∧ 365 * y + d = inOlympiad ∧ d ≤ 365 ∧ (d = 365 → y = 3) := by omega
  rw [hy, hd]
  omega

theorem one_le_yearOf (n : Nat) : 1 ≤ (yearOf n).1 := Nat.le_add_left 1 _

theorem daysBeforeYear_yearOf (n : Nat) : daysBeforeYear (yearOf n).1 + (yearOf n).2 = n := by
  obtain ⟨e, c, o, y, d, eq, hc, ho, hy, _, _, total⟩ := yearOf_parts n
  have fourths : (400 * e + 100 * c + 4 * o + y) / 4 = 100 * e + 25 * c + o := by omega
  have hundredths : (400 * e + 100 * c + 4 * o + y) / 100 = 4 * e + c := by omega
  have eras : (400 * e + 100 * c + 4 * o + y) / 400 = e := by omega
  rw [eq, daysBeforeYear, Nat.add_sub_cancel, fourths, hundredths, eras]
  omega

theorem yearOf_lt_yearLength (n : Nat) : (yearOf n).2 < yearLength (yearOf n).1 := by
  obtain ⟨e, c, o, y, d, eq, hc, ho, hy, hd, last, _⟩ := yearOf_parts n
  rw [eq]
  by_cases full : d = 365
  · obtain ⟨hy3, hc3⟩ := last full
    have leap : isLeap (400 * e + 100 * c + 4 * o + y + 1) = true := by
      simp only [isLeap, ne_eq, Bool.and_eq_true, Bool.or_eq_true, decide_eq_true_eq]
      omega
    simp only [yearLength, leap, if_true, full]
    omega
  · simp only [yearLength]
    split <;> omega

/-- A day that does not come before a year lies in that year or a later one. -/
theorem le_yearOf {year n : Nat} (h : daysBeforeYear year ≤ n) : year ≤ (yearOf n).1 := by
  by_cases before : (yearOf n).1 < year
  · obtain ⟨y, eq⟩ : ∃ y, (yearOf n).1 = y + 1 := ⟨(yearOf n).1 - 1, by have := one_le_yearOf n; omega⟩
    have inside := yearOf_lt_yearLength n
    have day := daysBeforeYear_yearOf n
    have later := daysBeforeYear_le before
    rw [Nat.succ_eq_add_one, eq, daysBeforeYear_succ] at later
    rw [eq] at inside day
    omega
  · omega

theorem yearOf_lt {year n : Nat} (h : n < daysBeforeYear year) : (yearOf n).1 < year := by
  by_cases after : year ≤ (yearOf n).1
  · have day := daysBeforeYear_yearOf n
    have later := daysBeforeYear_le after
    omega
  · omega

/-! ## Months -/

theorem daysBeforeMonth_monthLengths (year : Nat) :
    daysBeforeMonth (monthLengths year) (monthLengths year).length = yearLength year := by
  unfold monthLengths yearLength
  split <;> rfl

/-- The month of a day of the year has that day, and the months before it have all days before it. -/
theorem monthOf_eq {lengths : List Nat} {n : Nat} (first : Nat)
    (h : n < daysBeforeMonth lengths lengths.length) :
    ∃ i length, lengths[i]? = some length ∧ (monthOf first lengths n).1 = first + i ∧
      1 ≤ (monthOf first lengths n).2 ∧ (monthOf first lengths n).2 ≤ length ∧
      daysBeforeMonth lengths i + ((monthOf first lengths n).2 - 1) = n := by
  induction lengths generalizing first n with
  | nil => cases h
  | cons length rest ih =>
      rw [monthOf]
      split
      · next inside =>
          exact ⟨0, length, rfl, rfl, by simp only; omega, inside, by simp [daysBeforeMonth]⟩
      · next after =>
          rw [List.length_cons, daysBeforeMonth] at h
          obtain ⟨i, found, at_, month, low, high, total⟩ := ih (first + 1) (n := n - length) (by omega)
          refine ⟨i + 1, found, at_, by rw [month]; omega, low, high, ?_⟩
          rw [daysBeforeMonth]
          omega

/-- The facts about the date of a day from which all else follows. -/
private theorem dateOf_spec (n : Nat) :
    ∃ i length, (monthLengths (dateOf n).year)[i]? = some length ∧ (dateOf n).month = 1 + i ∧
      1 ≤ (dateOf n).day ∧ (dateOf n).day ≤ length ∧
      daysBeforeMonth (monthLengths (dateOf n).year) i + ((dateOf n).day - 1) = (yearOf n).2 := by
  have inside : (yearOf n).2 < daysBeforeMonth (monthLengths (yearOf n).1)
      (monthLengths (yearOf n).1).length := by
    rw [daysBeforeMonth_monthLengths]
    exact yearOf_lt_yearLength n
  exact monthOf_eq 1 inside

/-- A day is the day of its date. -/
theorem dayOf_dateOf (n : Nat) : dayOf (dateOf n) = n := by
  obtain ⟨i, length, _, month, _, _, total⟩ := dateOf_spec n
  have year := daysBeforeYear_yearOf n
  rw [dayOf, month, Nat.add_sub_cancel_left, Nat.add_assoc, total]
  exact year

theorem exists_dateOf (n : Nat) : (dateOf n).exists = true := by
  obtain ⟨i, length, at_, month, low, high, _⟩ := dateOf_spec n
  have year := one_le_yearOf n
  rw [Date.exists, month, Nat.add_sub_cancel_left, at_]
  simp only [Bool.and_eq_true, decide_eq_true_eq]
  exact ⟨⟨⟨year, by omega⟩, low⟩, high⟩

/-- Months and days of the month are written with two digits at most. -/
theorem dateOf_lt_hundred (n : Nat) : (dateOf n).month < 100 ∧ (dateOf n).day < 100 := by
  obtain ⟨i, length, at_, month, low, high, _⟩ := dateOf_spec n
  have inside := (List.getElem?_eq_some_iff.mp at_).1
  have short : ∀ l ∈ monthLengths (dateOf n).year, l ≤ 31 := by
    unfold monthLengths
    split <;> decide
  have bound := short length (List.mem_of_getElem? at_)
  rw [show (monthLengths (dateOf n).year).length = 12 from rfl] at inside
  omega

end CertMint.Calendar

namespace CertMint.Moment

/-! ## Universal time -/

theorem inYears_iff {clock : Int} :
    inYears clock = true ↔ 0 ≤ clock ∧ clock < 3652059 * (86400 * 1000000) := by
  rw [inYears, Bool.and_eq_true, decide_eq_true_eq, decide_eq_true_eq]
  exact Iff.rfl

/-- A moment on a clock of universal time is one of universal time. -/
theorem toUniversal?_of_universal {m : Moment} (universal : m.offset = some 0)
    (inside : inYears m.clock = true) : m.toUniversal? = some m := by
  obtain ⟨clock, offset⟩ := m
  obtain rfl : offset = some 0 := universal
  simp only [toUniversal?, Option.getD_some, Int.sub_zero, inside, if_true]

/-! ## Digits -/

theorem isDigit_of_mem_padded {width n : Nat} {c : Char} (h : c ∈ padded width n) :
    c.isDigit = true := by
  rcases List.mem_append.mp h with zero | digit
  · rw [List.eq_of_mem_replicate zero]
    rfl
  · exact Nat.isDigit_of_mem_toDigits (by omega) (by omega) digit

theorem length_padded {width n : Nat} (some_ : 0 < width) (fits : n < 10 ^ width) :
    (padded width n).length = width := by
  have short := (Nat.length_toDigits_le_iff (b := 10) (by omega) some_).mpr fits
  rw [padded, List.length_append, List.length_replicate]
  omega

theorem ofDigitChars_padded (width n : Nat) : Nat.ofDigitChars 10 (padded width n) 0 = n := by
  rw [padded, Nat.ofDigitChars_append, Nat.ofDigitChars_replicate_zero, Nat.mul_zero,
    Nat.ofDigitChars_ten_toDigits]

private theorem takeNumber?_go {digits : List Char} (h : ∀ c ∈ digits, c.isDigit = true)
    (n : Nat) (rest : List Char) :
    takeNumber?.go digits.length n (digits ++ rest) = some (Nat.ofDigitChars 10 digits n, rest) := by
  induction digits generalizing n with
  | nil => rw [Nat.ofDigitChars_nil]; rfl
  | cons c digits ih =>
      rw [List.length_cons, List.cons_append, takeNumber?.go, if_pos (h c List.mem_cons_self),
        ih (fun d member => h d (List.mem_cons_of_mem c member)), Nat.ofDigitChars_cons]
      rfl

theorem takeNumber?_padded {width n : Nat} (some_ : 0 < width) (fits : n < 10 ^ width)
    (rest : List Char) : takeNumber? width (padded width n ++ rest) = some (n, rest) := by
  obtain ⟨less, rfl⟩ : ∃ less, width = less + 1 := ⟨width - 1, by omega⟩
  have read := takeNumber?_go (fun c => @isDigit_of_mem_padded (less + 1) n _) 0 rest
  rwa [length_padded some_ fits, ofDigitChars_padded] at read

end CertMint.Moment
