import CertMint.Ini.Reference
import CertMint.Proofs.Rendered
import Mathlib.Data.List.Infix

/-! # Doubled percent signs

A text in which every percent sign is doubled has no references in it, and is read as the text itself,
whatever the other options are.
-/

namespace CertMint.Ini

open Text

/-- What is written for a character. -/
def doubled (c : Char) : List Char := if c = '%' then ['%', '%'] else [c]

/-- A text with every percent sign doubled. -/
def escape (s : String) : String := String.ofList (s.toList.flatMap doubled)

theorem doubled_of_ne {c : Char} (other : c ≠ '%') : doubled c = [c] := if_neg other

theorem mem_doubled {c d : Char} : d ∈ doubled c ↔ d = c := by
  rw [doubled]
  split
  · next same => simp [same]
  · exact List.mem_singleton

/-! ## Reading -/

section Parts

variable {options : Options} {nested : String → Except ReferenceError (List Char)}

theorem parts_cons_of_ne {c : Char} (other : c ≠ '%') (fuel : Nat) (rest : List Char) :
    parts (fuel + 1) (c :: rest) =
      .text (c :: rest.takeWhile (· ≠ '%')) ::
        parts fuel (rest.drop (rest.takeWhile (· ≠ '%')).length) := by
  rw [parts]
  all_goals
    intros
    exact other ‹c = '%'›

theorem expandParts_text (cs : List Char) (ps : List Part) :
    expandParts options nested (.text cs :: ps) = (expandParts options nested ps).map (cs ++ ·) := by
  rw [expandParts]

theorem takeWhile_cons_of_ne {c : Char} (other : c ≠ '%') (cs : List Char) :
    (c :: cs).takeWhile (· ≠ '%') = c :: cs.takeWhile (· ≠ '%') :=
  List.takeWhile_cons_of_pos (decide_eq_true other)

/-- A doubled text is the text up to the first percent sign, and what follows is doubled. -/
theorem flatMap_doubled_eq (cs : List Char) :
    (cs.flatMap doubled).takeWhile (· ≠ '%') = cs.takeWhile (· ≠ '%') ∧
      (cs.flatMap doubled).drop (cs.takeWhile (· ≠ '%')).length =
        (cs.drop (cs.takeWhile (· ≠ '%')).length).flatMap doubled := by
  induction cs with
  | nil => exact ⟨rfl, rfl⟩
  | cons c cs ih =>
      obtain ⟨taken, left⟩ := ih
      by_cases same : c = '%'
      · rw [same]
        exact ⟨rfl, rfl⟩
      · rw [List.flatMap_cons, doubled_of_ne same, List.singleton_append, takeWhile_cons_of_ne same,
          takeWhile_cons_of_ne same, taken]
        exact ⟨rfl, left⟩

/-- The parts of a doubled text stand for the text. -/
theorem expandParts_doubled {fuel : Nat} {cs : List Char} (enough : (cs.flatMap doubled).length ≤ fuel) :
    expandParts options nested (parts fuel (cs.flatMap doubled)) = .ok cs := by
  induction fuel generalizing cs with
  | zero =>
      cases cs with
      | nil => rfl
      | cons c cs =>
          have none_ := List.eq_nil_of_length_eq_zero (Nat.le_zero.mp enough)
          cases List.flatMap_eq_nil_iff.mp none_ c List.mem_cons_self ▸ mem_doubled.mpr (rfl : c = c)
  | succ fuel ih =>
      cases cs with
      | nil => rfl
      | cons c cs =>
          rw [List.flatMap_cons] at enough ⊢
          by_cases percent : c = '%'
          · subst percent
            have step : parts (fuel + 1) (doubled '%' ++ cs.flatMap doubled) =
                .text ['%'] :: parts fuel (cs.flatMap doubled) := rfl
            have less : (cs.flatMap doubled).length ≤ fuel := by
              rw [List.length_append] at enough
              have two : (doubled '%').length = 2 := rfl
              omega
            rw [step, expandParts_text, ih less]
            rfl
          · obtain ⟨taken, left⟩ := flatMap_doubled_eq cs
            rw [doubled_of_ne percent, List.singleton_append] at enough ⊢
            rw [parts_cons_of_ne percent, taken, left, expandParts_text, ih]
            · have whole : cs.takeWhile (· ≠ '%') ++ cs.drop (cs.takeWhile (· ≠ '%')).length = cs :=
                (List.prefix_append_drop (List.takeWhile_prefix _)).symm
              exact congrArg (fun rest => Except.ok (c :: rest)) whole
            · rw [← left, List.length_drop]
              rw [List.length_cons] at enough
              omega

end Parts

theorem expand_escape (options : Options) (s : String) : expand options (escape s) = .ok s := by
  have whole : expandWithin options maxDepth (escape s) = .ok s.toList := by
    rw [maxDepth, expandWithin, partsOf, escape, String.toList_ofList]
    refine expandParts_doubled (le_of_eq ?_)
    rw [String.length_ofList]
  rw [expand, whole]
  exact congrArg Except.ok String.ofList_toList

/-! ## Plainness -/

theorem oneLine_escape {s : String} (oneLine : OneLine s) : OneLine (escape s) := by
  have absent (c : Char) (h : c ∉ s.toList) : c ∉ (escape s).toList := by
    rw [escape, String.toList_ofList, List.mem_flatMap]
    rintro ⟨d, member, same⟩
    obtain rfl := mem_doubled.mp same
    exact h member
  exact ⟨absent _ oneLine.1, absent _ oneLine.2⟩

theorem dropWhile_flatMap_doubled {cs : List Char} (start : cs.dropWhile isBlank = cs) :
    (cs.flatMap doubled).dropWhile isBlank = cs.flatMap doubled := by
  cases cs with
  | nil => rfl
  | cons c cs =>
      have first : ¬ isBlank c = true := List.dropWhile_eq_self_iff.mp start (Nat.succ_pos _)
      rw [List.flatMap_cons]
      refine dropWhile_append_eq ?_ ?_ _
      · rw [doubled]
        split <;> exact List.cons_ne_nil _ _
      · rw [doubled]
        split
        · decide
        · exact List.dropWhile_cons_of_neg first

theorem reverse_flatMap_doubled (cs : List Char) :
    (cs.flatMap doubled).reverse = cs.reverse.flatMap doubled := by
  have palindrome (c : Char) : (doubled c).reverse = doubled c := by
    rw [doubled]
    split <;> rfl
  rw [List.reverse_flatMap]
  exact congrArg (List.flatMap · cs.reverse) (funext palindrome)

theorem trimmed_escape {s : String} (trimmed : Trimmed s.toList) : Trimmed (escape s).toList := by
  rw [escape, String.toList_ofList]
  refine ⟨dropWhile_flatMap_doubled trimmed.start, ?_⟩
  have start : s.toList.reverse.dropWhile isBlank = s.toList.reverse :=
    List.reverse_eq_iff.mp trimmed.stop
  rw [List.rdropWhile, reverse_flatMap_doubled, dropWhile_flatMap_doubled start,
    ← reverse_flatMap_doubled, List.reverse_reverse]

theorem plainValue_escape {s : String} (plain : PlainValue s) : PlainValue (escape s) :=
  ⟨trimmed_escape plain.trimmed, oneLine_escape plain.oneLine⟩

end CertMint.Ini
