import CertMint.Json.Reader
import CertMint.Proofs.JsonTexts

/-! # JSON texts read

Reading a text that denotes a datum gives that datum: the reader follows the grammar. What follows a number has to
be no character of one, as is so wherever the grammar lets something follow.
-/

namespace CertMint.Json

open Keyed

variable {n : Nat} {before cs tail : List Char} {c : Char} {d : Datum}

/-! ## Blanks -/

theorem isGap_of_mem (gap : Gap before) : ∀ c ∈ before, isGap c = true := by
  intro c member
  rcases gap c member with rfl | rfl | rfl | rfl <;> rfl

theorem skipGaps_append (gap : Gap before) (cs : List Char) : skipGaps (before ++ cs) = skipGaps cs := by
  rw [skipGaps, List.dropWhile_append_of_pos (isGap_of_mem gap)]
  rfl

theorem skipGaps_cons (solid : isGap c = false) (cs : List Char) : skipGaps (c :: cs) = c :: cs :=
  List.dropWhile_cons_of_neg (Bool.eq_false_iff.mp solid)

theorem skipGaps_skipGaps (cs : List Char) : skipGaps (skipGaps cs) = skipGaps cs :=
  List.dropWhile_idempotent isGap cs

/-- What follows is no part of a number. -/
def Stops (cs : List Char) : Prop := ∀ c ∈ cs.head?, isNumberChar c = false

theorem Stops.append (gap : Gap before) (stops : Stops tail) : Stops (before ++ tail) := by
  cases before with
  | nil => exact stops
  | cons c rest =>
      intro c' head
      obtain rfl : c = c' := by simpa using head
      rcases gap c List.mem_cons_self with rfl | rfl | rfl | rfl <;> rfl

/-! ## Texts -/

section Texts

theorem takeUnit_append {ds : List Char} {n : Nat} (digits : UnitDigits ds n) (tail : List Char) :
    takeUnit (ds ++ tail) = some (n, tail) := by
  obtain ⟨four, value⟩ := digits
  match ds, four with
  | [a, b, c, d], _ =>
      simp only [Text.hexNumber?, List.isEmpty_cons, Bool.false_eq_true, if_false, List.foldlM_cons,
        List.foldlM_nil, bind, Option.bind_eq_some_iff, Option.map_eq_some_iff, pure] at value
      obtain ⟨_, ⟨a', ha, rfl⟩, _, ⟨b', hb, rfl⟩, _, ⟨c', hc, rfl⟩, _, ⟨d', hd, rfl⟩, same⟩ := value
      have value : ((a' * 16 + b') * 16 + c') * 16 + d' = n := by
        rw [← Option.some.inj same]
        omega
      simp [takeUnit, ha, hb, hc, hd, value]

/-- A character of one unit is no half of a pair. -/
theorem takeEscape_unit {ds : List Char} (digits : UnitDigits ds c.toNat) (tail : List Char) :
    takeEscape (ds ++ tail) = some (c, tail) := by
  have whole : ¬ (0xd800 ≤ c.toNat ∧ c.toNat < 0xdc00) := by
    have := isScalar c
    omega
  rw [takeEscape, takeUnit_append digits]
  simp [whole, Char.ofNat_toNat]

theorem takeEscape_pair {ds ds' : List Char} {n : Nat} (high : UnitDigits ds (0xd800 + n / 1024))
    (low : UnitDigits ds' (0xdc00 + n % 1024)) (value : c.toNat = 0x10000 + n) (tail : List Char) :
    takeEscape (ds ++ '\\' :: 'u' :: ds' ++ tail) = some (c, tail) := by
  have bound := isScalar c
  have isHigh : 0xd800 ≤ 0xd800 + n / 1024 ∧ 0xd800 + n / 1024 < 0xdc00 := by omega
  have isLow : 0xdc00 ≤ 0xdc00 + n % 1024 ∧ 0xdc00 + n % 1024 < 0xe000 := by omega
  have same : 0x10000 + (0xd800 + n / 1024 - 0xd800) * 1024 + (0xdc00 + n % 1024 - 0xdc00) = c.toNat := by omega
  rw [takeEscape, List.append_assoc, takeUnit_append high]
  simp only [bind, Option.bind_some, List.cons_append, if_pos isHigh, takeUnit_append low, if_pos isLow, same,
    Char.ofNat_toNat]
  rfl

theorem takeText_spelling (spelling : Spelling cs c) (n : Nat) (done tail : List Char) :
    takeText (n + 1) done (cs ++ tail) = takeText n (c :: done) tail := by
  cases spelling with
  | bare visible notQuote notBackslash =>
      rw [List.singleton_append, takeText, if_neg (Nat.not_lt.mpr visible)]
      · exact notQuote
      · exact fun _ same _ => notBackslash same
      · exact fun _ _ same _ => notBackslash same
  | @letter l _ member =>
      have read : ∀ entry ∈ letters, entry.1 ≠ 'u' ∧ letterEscape? entry.1 = some entry.2 := by decide
      obtain ⟨notUnit, escape⟩ : l ≠ 'u' ∧ letterEscape? l = some c := read _ member
      -- With `notUnit` the escape is no numeric one.
      simp [takeText, escape]
  | unit digits => simp only [List.cons_append, takeText, takeEscape_unit digits]
  | pair high low value =>
      have escape := takeEscape_pair high low value tail
      simp only [List.cons_append, List.append_assoc] at escape ⊢
      simp only [takeText, escape]

theorem Spelling.length_pos (spelling : Spelling cs c) : 0 < cs.length := by
  cases spelling <;> exact Nat.succ_pos _

/-- What is spelled up to the closing quote is read. -/
theorem takeText_of_spells {s : List Char} (spells : Spells cs s) {n : Nat} (short : cs.length < n)
    (done tail : List Char) :
    takeText n done (cs ++ '\x22' :: tail) = some (String.ofList (done.reverse ++ s), tail) := by
  induction spells generalizing n done with
  | nil =>
      obtain ⟨fuel, rfl⟩ := Nat.exists_eq_add_of_lt short
      rw [List.append_nil]
      rfl
  | @cons first more c rest spelling _ ih =>
      have some_ := spelling.length_pos
      rw [List.length_append] at short
      obtain ⟨fuel, rfl⟩ : ∃ fuel, n = fuel + 1 := ⟨n - 1, by omega⟩
      rw [List.append_assoc, takeText_spelling spelling, ih (by omega), List.reverse_cons, List.append_assoc]
      rfl

end Texts

/-! ## Numbers -/

section Numbers

variable {ds : List Char}

theorem isNumberChar_of_isDigit (digit : c.isDigit = true) : isNumberChar c = true := by
  simp [isNumberChar, digit]

/-- The first of some digits. -/
theorem Digits.exists_cons (digits : Digits ds n) : ∃ c more, ds = c :: more ∧ c.isDigit = true := by
  obtain ⟨c, more, rfl⟩ := List.exists_cons_of_ne_nil digits.some_
  exact ⟨c, more, rfl, digits.digits c List.mem_cons_self⟩

theorem Digits.asciiNumber_eq (digits : Digits ds n) : Binary64.asciiNumber 0 ds = n := digits.value

theorem numberOf?_digits (digits : Digits ds n) : numberOf? ds = some (.int n) := by
  obtain ⟨c, more, rfl, digit⟩ := digits.exists_cons
  have all : (c :: more).all Char.isDigit = true := List.all_eq_true.mpr digits.digits
  rw [numberOf?]
  · simp only [List.isEmpty_cons, Bool.false_eq_true, if_false, all, if_true, Nat.lt_irrefl, digits.asciiNumber_eq]
  · intro _ same
    obtain ⟨rfl, -⟩ := List.cons.inj same
    cases digit

theorem numberOf?_minus (digits : Digits ds n) : numberOf? ('-' :: ds) = some (.int (-n)) := by
  have all : ds.all Char.isDigit = true := List.all_eq_true.mpr digits.digits
  have some_ : ¬ ds.isEmpty = true := mt List.isEmpty_iff.mp digits.some_
  simp only [numberOf?, some_, all, if_true, List.length_cons, Nat.lt_succ_self, digits.asciiNumber_eq]
  simp

theorem numberOf?_numeral {i : Int} (numeral : Numeral cs i) : numberOf? cs = some (.int i) := by
  cases numeral with
  | plain digits => exact numberOf?_digits digits
  | minus digits => exact numberOf?_minus digits

theorem isNumberChar_of_mem_numeral {i : Int} (numeral : Numeral cs i) : ∀ c ∈ cs, isNumberChar c = true := by
  cases numeral with
  | plain digits => exact fun c member => isNumberChar_of_isDigit (digits.digits c member)
  | minus digits =>
      refine List.forall_mem_cons.mpr ⟨rfl, ?_⟩
      exact fun c member => isNumberChar_of_isDigit (digits.digits c member)

/-- What begins with a digit, or with a minus sign and a digit, is no word. -/
theorem takeWord_numeral {i : Int} (numeral : Numeral cs i) (tail : List Char) :
    takeWord (cs ++ tail) = (do
      let d ← numberOf? ((cs ++ tail).takeWhile isNumberChar)
      return (d, (cs ++ tail).dropWhile isNumberChar)) := by
  cases numeral with
  | plain digits =>
      obtain ⟨c, more, rfl, digit⟩ := digits.exists_cons
      rw [List.cons_append, takeWord]
      all_goals
        intro _ same
        obtain ⟨rfl, -⟩ := List.cons.inj same
        cases digit
  | @minus ds _ digits =>
      obtain ⟨c, more, rfl, digit⟩ := digits.exists_cons
      rw [List.cons_append, List.cons_append, takeWord]
      case x_5 =>
          intro _ same
          obtain ⟨rfl, -⟩ := List.cons.inj (List.cons.inj same).2
          cases digit
      all_goals
        intro _ same
        cases (List.cons.inj same).1

theorem takeWhile_append_of_stops (all : ∀ c ∈ cs, isNumberChar c = true) (stops : Stops tail) :
    (cs ++ tail).takeWhile isNumberChar = cs ∧ (cs ++ tail).dropWhile isNumberChar = tail := by
  rw [List.takeWhile_append_of_pos all, List.dropWhile_append_of_pos all]
  cases tail with
  | nil => exact ⟨List.append_nil cs, rfl⟩
  | cons c rest =>
      have stop : isNumberChar c = false := stops c rfl
      simp [stop]

theorem takeWord_of_numeral {i : Int} (numeral : Numeral cs i) (stops : Stops tail) :
    takeWord (cs ++ tail) = some (.int i, tail) := by
  obtain ⟨number, after⟩ := takeWhile_append_of_stops (isNumberChar_of_mem_numeral numeral) stops
  rw [takeWord_numeral numeral, number, after, numberOf?_numeral numeral]
  rfl

end Numbers

/-! ## Data -/

section Data

variable {p : List Char × Datum} {m : Member}

/-- A text is read as a datum, with enough fuel and whatever follows it. Blanks after it may be left. -/
def Reads (cs : List Char) (d : Datum) : Prop :=
  ∀ {n : Nat} {tail : List Char}, cs.length < n → Stops tail →
    ∃ after, Gap after ∧ takeDatum n (cs ++ tail) = some (d, after ++ tail)

theorem takeDatum_skipGaps (n : Nat) (cs : List Char) : takeDatum n (skipGaps cs) = takeDatum n cs := by
  cases n with
  | zero => rfl
  | succ n => rw [takeDatum, takeDatum, skipGaps_skipGaps]

theorem takeItems_skipGaps (n : Nat) (cs : List Char) : takeItems n (skipGaps cs) = takeItems n cs := by
  cases n with
  | zero => rfl
  | succ n => rw [takeItems, takeItems, takeDatum_skipGaps]

theorem takeEntries_skipGaps (n : Nat) (done : List (Datum × Datum)) (cs : List Char) :
    takeEntries n done (skipGaps cs) = takeEntries n done cs := by
  cases n with
  | zero => rfl
  | succ n => rw [takeEntries, takeEntries, skipGaps_skipGaps]

/-- No datum begins with a closing bracket. -/
theorem takeDatum_of_bracket {more : List Char} (closing : skipGaps cs = ']' :: more) (n : Nat) :
    takeDatum n cs = none := by
  cases n with
  | zero => rfl
  | succ n =>
      rw [takeDatum, closing]
      rfl

theorem takeDatum_opening (n : Nat) (cs : List Char) : takeDatum (n + 1) ('[' :: cs) = match skipGaps cs with
    | ']' :: rest => some (.list [], rest)
    | rest => (takeItems n rest).map fun (items, rest) => (.list items, rest) := rfl

theorem takeDatum_brace (n : Nat) (cs : List Char) : takeDatum (n + 1) ('\x7b' :: cs) = match skipGaps cs with
    | '\x7d' :: rest => some (.record [], rest)
    | rest => (takeEntries n [] rest).map fun (entries, rest) => (.record entries, rest) := rfl

/-! ### Parts without parts -/

theorem takeDatum_of_numeral {i : Int} (numeral : Numeral cs i) (stops : Stops tail) :
    takeDatum (n + 1) (cs ++ tail) = some (.int i, tail) := by
  have word := takeWord_of_numeral numeral stops
  obtain ⟨c, more, rfl, number⟩ : ∃ c more, cs = c :: more ∧ isNumberChar c = true := by
    have each := isNumberChar_of_mem_numeral numeral
    cases cs with
    | nil => cases numeral with
      | plain digits => exact absurd rfl digits.some_
    | cons c more => exact ⟨c, more, rfl, each c List.mem_cons_self⟩
  have ne {sign : Char} (apart : isNumberChar sign = false) : c ≠ sign := by
    rintro rfl
    cases number.symm.trans apart
  have solid : isGap c = false := by
    have blank : c ≠ ' ' ∧ c ≠ '\n' ∧ c ≠ '\r' ∧ c ≠ '\t' := ⟨ne rfl, ne rfl, ne rfl, ne rfl⟩
    simp [isGap, blank]
  rw [List.cons_append] at word ⊢
  rw [takeDatum, skipGaps_cons solid]
  split
  · next same => exact absurd (List.cons.inj same).1 (ne rfl)
  · next same => exact absurd (List.cons.inj same).1 (ne rfl)
  · next same => exact absurd (List.cons.inj same).1 (ne rfl)
  · exact word

theorem takeDatum_of_spells {s : List Char} (spells : Spells cs s) (tail : List Char) :
    takeDatum (n + 1) ('\x22' :: (cs ++ '\x22' :: tail)) = some (.text (String.ofList s), tail) := by
  have short : cs.length < (cs ++ '\x22' :: tail).length + 1 := by
    rw [List.length_append]
    omega
  have quote : isGap '\x22' = false := rfl
  simp only [takeDatum, skipGaps_cons quote, takeText_of_spells spells short]
  rfl

theorem takeDatum_noItems (gap : Gap before) (tail : List Char) :
    takeDatum (n + 1) ('[' :: (before ++ ']' :: tail)) = some (.list [], tail) := by
  have closes : skipGaps (before ++ ']' :: tail) = ']' :: tail := skipGaps_append gap _
  rw [takeDatum_opening, closes]
  rfl

theorem takeDatum_noEntries (gap : Gap before) (tail : List Char) :
    takeDatum (n + 1) ('\x7b' :: (before ++ '\x7d' :: tail)) = some (.named [], tail) := by
  have closes : skipGaps (before ++ '\x7d' :: tail) = '\x7d' :: tail := skipGaps_append gap _
  rw [takeDatum_brace, closes]
  rfl

/-! ### What follows -/

theorem stops_comma (cs : List Char) : Stops (',' :: cs) := fun c head => by cases head; rfl

theorem stops_bracket (cs : List Char) : Stops (']' :: cs) := fun c head => by cases head; rfl

theorem stops_brace (cs : List Char) : Stops ('\x7d' :: cs) := fun c head => by cases head; rfl

/-! ### Items -/

theorem takeItems_last (reads : Reads cs d) (short : cs.length < n) (tail : List Char) :
    takeItems (n + 1) (cs ++ ']' :: tail) = some ([d], tail) := by
  obtain ⟨after, gap, read⟩ := reads short (stops_bracket tail)
  have closes : skipGaps (after ++ ']' :: tail) = ']' :: tail := skipGaps_append gap _
  rw [takeItems, read]
  simp only [bind, Option.bind_some, closes]
  rfl

theorem takeItems_more {rest : List Char} {items : List Datum} (reads : Reads cs d) (short : cs.length < n)
    (others : takeItems n rest = some (items, tail)) :
    takeItems (n + 1) (cs ++ ',' :: rest) = some (d :: items, tail) := by
  obtain ⟨after, gap, read⟩ := reads short (stops_comma rest)
  have goesOn : skipGaps (after ++ ',' :: rest) = ',' :: rest := skipGaps_append gap _
  rw [takeItems, read]
  simp only [bind, Option.bind_some, goesOn, others]
  rfl

theorem takeItems_of_reads {parts : List (List Char × Datum)} (some_ : parts ≠ [])
    (each : ∀ p ∈ parts, Reads p.1 p.2) {n : Nat} (short : (commas (parts.map Prod.fst)).length + 1 < n)
    (tail : List Char) :
    takeItems n (commas (parts.map Prod.fst) ++ ']' :: tail) = some (parts.map Prod.snd, tail) := by
  induction parts generalizing n with
  | nil => exact absurd rfl some_
  | cons p rest ih =>
      obtain ⟨first, others⟩ := List.forall_mem_cons.mp each
      obtain ⟨fuel, rfl⟩ : ∃ fuel, n = fuel + 1 := ⟨n - 1, by omega⟩
      cases rest with
      | nil =>
          simp only [List.map_cons, List.map_nil, commas_singleton] at short ⊢
          exact takeItems_last first (by omega) tail
      | cons q rest =>
          have read := @ih (List.cons_ne_nil q rest) others fuel
          simp only [List.map_cons, commas_cons_cons, List.length_append, List.length_cons, List.append_assoc,
            List.cons_append] at short read ⊢
          exact takeItems_more first (by omega) (read (by omega))

/-- What is read up to a closing bracket is a list, also if blanks come first. -/
theorem takeDatum_list {items : List Datum} (read : takeItems n cs = some (items, tail)) :
    takeDatum (n + 1) ('[' :: cs) = some (.list items, tail) := by
  obtain ⟨fuel, rfl⟩ : ∃ fuel, n = fuel + 1 := by
    cases n with
    | zero => cases read
    | succ fuel => exact ⟨fuel, rfl⟩
  rw [takeDatum_opening]
  split
  · next closing =>
      rw [takeItems, takeDatum_of_bracket closing] at read
      cases read
  · rw [takeItems_skipGaps, read]
    rfl

/-! ### Entries -/

/-- After a name and a colon there is a datum, and after it a comma or the end. -/
theorem takeEntries_label {label rest after : List Char} {name : String} (labels : Labels label name)
    (read : takeDatum n rest = some (d, after)) (done : List (Datum × Datum)) :
    takeEntries (n + 1) done (label ++ ':' :: rest) = match skipGaps after with
      | ',' :: rest => takeEntries n (Datum.insertEntry (.text name) d done) rest
      | '\x7d' :: rest => some (Datum.insertEntry (.text name) d done, rest)
      | _ => none := by
  cases labels with
  | @mk before cs name gapAfter gap spells gap' =>
      have opens : skipGaps (before ++ '\x22' :: (cs ++ '\x22' :: gapAfter) ++ ':' :: rest) =
          '\x22' :: (cs ++ '\x22' :: (gapAfter ++ ':' :: rest)) := by
        rw [List.append_assoc, skipGaps_append gap, List.cons_append, List.append_assoc]
        rfl
      have text := takeText_of_spells spells (n := (cs ++ '\x22' :: (gapAfter ++ ':' :: rest)).length + 1)
        (by simp only [List.length_append]; omega) [] (gapAfter ++ ':' :: rest)
      have colon : skipGaps (gapAfter ++ ':' :: rest) = ':' :: rest := skipGaps_append gap' _
      rw [takeEntries, opens]
      simp only [text, bind, Option.bind_some, colon, read]
      rfl

theorem takeEntries_last (labels : Labels m.label m.name) (reads : Reads m.content m.datum)
    (short : m.content.length < n) (done : List (Datum × Datum)) (tail : List Char) :
    takeEntries (n + 1) done (m.text ++ '\x7d' :: tail) =
      some (Datum.insertEntry (.text m.name) m.datum done, tail) := by
  obtain ⟨after, gap, read⟩ := reads short (stops_brace tail)
  have closes : skipGaps (after ++ '\x7d' :: tail) = '\x7d' :: tail := skipGaps_append gap _
  rw [Member.text, List.append_assoc, List.cons_append, takeEntries_label labels read, closes]
  rfl

theorem takeEntries_more {rest : List Char} (labels : Labels m.label m.name) (reads : Reads m.content m.datum)
    (short : m.content.length < n) (done : List (Datum × Datum)) :
    takeEntries (n + 1) done (m.text ++ ',' :: rest) =
      takeEntries n (Datum.insertEntry (.text m.name) m.datum done) rest := by
  obtain ⟨after, gap, read⟩ := reads short (stops_comma rest)
  have goesOn : skipGaps (after ++ ',' :: rest) = ',' :: rest := skipGaps_append gap _
  rw [Member.text, List.append_assoc, List.cons_append, takeEntries_label labels read, goesOn]
  rfl

theorem takeEntries_of_reads {members : List Member} (some_ : members ≠ [])
    (labels : ∀ m ∈ members, Labels m.label m.name) (each : ∀ m ∈ members, Reads m.content m.datum)
    {n : Nat} (short : (commas (members.map Member.text)).length + 1 < n) (into : List (String × Datum))
    (tail : List Char) :
    takeEntries n (Datum.underNames into) (commas (members.map Member.text) ++ '\x7d' :: tail) =
      some (Datum.underNames (putAll (members.map Member.entry) into), tail) := by
  induction members generalizing n into with
  | nil => exact absurd rfl some_
  | cons m rest ih =>
      obtain ⟨label, others'⟩ := List.forall_mem_cons.mp labels
      obtain ⟨first, others⟩ := List.forall_mem_cons.mp each
      obtain ⟨fuel, rfl⟩ : ∃ fuel, n = fuel + 1 := ⟨n - 1, by omega⟩
      have put_ : putAll ((m :: rest).map Member.entry) into =
          putAll (rest.map Member.entry) (put m.name m.datum into) := rfl
      have inside : m.content.length < m.text.length := by
        rw [Member.text, List.length_append, List.length_cons]
        omega
      rw [put_]
      cases rest with
      | nil =>
          simp only [List.map_cons, List.map_nil, commas_singleton] at short ⊢
          rw [takeEntries_last label first (by omega), Datum.insertEntry_underNames]
          rfl
      | cons m' rest =>
          have read := @ih (List.cons_ne_nil m' rest) others' others fuel
          simp only [List.map_cons, commas_cons_cons, List.length_append, List.length_cons, List.append_assoc,
            List.cons_append] at short read ⊢
          rw [takeEntries_more label first (by omega), Datum.insertEntry_underNames]
          exact read (by omega) _

/-- What is read up to a closing brace is a record, also if blanks come first. -/
theorem takeDatum_record {entries : List (Datum × Datum)} (read : takeEntries n [] cs = some (entries, tail)) :
    takeDatum (n + 1) ('\x7b' :: cs) = some (.record entries, tail) := by
  obtain ⟨fuel, rfl⟩ : ∃ fuel, n = fuel + 1 := by
    cases n with
    | zero => cases read
    | succ fuel => exact ⟨fuel, rfl⟩
  rw [takeDatum_brace]
  split
  · next closing =>
      rw [takeEntries, closing] at read
      cases read
  · rw [takeEntries_skipGaps, read]
    rfl

/-! ### Every text -/

/-- What is read up to its end leaves no blanks. -/
theorem Reads.whole (read : ∀ n tail, cs.length ≤ n → Stops tail →
    takeDatum (n + 1) (cs ++ tail) = some (d, tail)) : Reads cs d := by
  intro n tail short stops
  obtain ⟨fuel, rfl⟩ : ∃ fuel, n = fuel + 1 := ⟨n - 1, by omega⟩
  exact ⟨[], gap_nil, read fuel tail (by omega) stops⟩

/-- By induction on the text: its parts are shorter, so that the fuel is enough for them. -/
theorem reads_of_denotes (denotes : Denotes cs d) : Reads cs d := by
  induction denotes with
  | @gap before cs after d gap _ gap' ih =>
      intro n tail short stops
      rw [List.length_append, List.length_append] at short
      obtain ⟨left, gap'', read⟩ := ih (show cs.length < n by omega) (stops.append gap')
      refine ⟨left ++ after, ?_, ?_⟩
      · intro c member
        exact (List.mem_append.mp member).elim (gap'' c) (gap' c)
      · rw [List.append_assoc, List.append_assoc, ← takeDatum_skipGaps, skipGaps_append gap, takeDatum_skipGaps,
          read, List.append_assoc]
  | null => exact Reads.whole fun _ _ _ _ => rfl
  | true_ => exact Reads.whole fun _ _ _ _ => rfl
  | false_ => exact Reads.whole fun _ _ _ _ => rfl
  | number numeral => exact Reads.whole fun _ _ _ stops => takeDatum_of_numeral numeral stops
  | text spells =>
      apply Reads.whole
      intro n tail _ _
      rw [List.append_assoc]
      exact takeDatum_of_spells spells tail
  | noItems gap =>
      apply Reads.whole
      intro n tail _ _
      rw [List.append_assoc]
      exact takeDatum_noItems gap tail
  | items some_ _ ih =>
      apply Reads.whole
      intro n tail short _
      simp only [List.length_append, List.length_cons, List.length_nil] at short
      rw [List.append_assoc]
      exact takeDatum_list (takeItems_of_reads some_ ih (by omega) tail)
  | noEntries gap =>
      apply Reads.whole
      intro n tail _ _
      rw [List.append_assoc]
      exact takeDatum_noEntries gap tail
  | entries some_ labels _ ih =>
      apply Reads.whole
      intro n tail short _
      simp only [List.length_append, List.length_cons, List.length_nil] at short
      rw [List.append_assoc]
      exact takeDatum_record (takeEntries_of_reads some_ labels ih (by omega) [] tail)

/-- A text that denotes a datum is read as that datum. -/
theorem read?_of_denotes {s : String} (denotes : Denotes s.toList d) : read? s = some d := by
  have stops : Stops [] := fun _ head => by cases head
  obtain ⟨after, gap, read⟩ := reads_of_denotes denotes (Nat.lt_succ_self _) stops
  have done : skipGaps (after ++ []) = [] := skipGaps_append gap []
  rw [List.append_nil] at read
  simp only [read?, read, bind, Option.bind_some, done]
  rfl

end Data

end CertMint.Json
