import CertMint.Ini.Reference

/-! # Values that cannot be read

A value cannot be read when a percent sign in it begins nothing, when it refers to an option that is not
there, when it refers to a value that cannot be read, or when its references are nested too deep. These
are the only reasons.
-/

namespace CertMint.Ini

variable {options : Options} {depth : Nat} {value : String}

/-- A value that cannot be read where references may be nested so deep. -/
inductive Broken (options : Options) : Nat → String → Prop where
  /-- References are nested too deep. -/
  | tooDeep (value : String) : Broken options 0 value
  /-- A percent sign begins neither a reference nor another percent sign. -/
  | flawed {depth : Nat} {value : String} {rest : List Char} (part : .flaw rest ∈ partsOf value) :
      Broken options (depth + 1) value
  /-- An option that the value refers to is not there. -/
  | missing {depth : Nat} {value name : String} (part : .reference name ∈ partsOf value)
      (unknown : Keyed.get? name options = none) : Broken options (depth + 1) value
  /-- The value of an option that the value refers to has references in its turn, and cannot be read. -/
  | nested {depth : Nat} {value name inner : String} (part : .reference name ∈ partsOf value)
      (known : Keyed.get? name options = some inner) (refers : inner.toList.contains '%' = true)
      (broken : Broken options depth inner) : Broken options (depth + 1) value

/-- A part that stands for nothing, where `nested` reads the values of other options. -/
inductive Part.Bad (options : Options) (nested : String → Except ReferenceError (List Char)) :
    Part → Prop where
  | flaw (rest : List Char) : Bad options nested (.flaw rest)
  | missing {name : String} (unknown : Keyed.get? name options = none) : Bad options nested (.reference name)
  | nested {name inner : String} {e : ReferenceError} (known : Keyed.get? name options = some inner)
      (refers : inner.toList.contains '%' = true) (failed : nested inner = .error e) :
      Bad options nested (.reference name)

namespace Part.Bad

variable {nested : String → Except ReferenceError (List Char)} {name inner : String}

theorem not_text (cs : List Char) : ¬ Bad options nested (.text cs) := fun bad => by cases bad

/-- A reference to an option that is there is bad exactly when that option's value is. -/
theorem reference_iff (known : Keyed.get? name options = some inner) :
    Bad options nested (.reference name) ↔
      ∃ e, (if inner.toList.contains '%' then nested inner else .ok inner.toList) = .error e := by
  constructor
  · intro bad
    cases bad with
    | missing unknown => cases known.symm.trans unknown
    | nested known' refers failed =>
        obtain rfl := Option.some.inj (known.symm.trans known')
        exact ⟨_, by rw [if_pos refers, failed]⟩
  · rintro ⟨e, failed⟩
    split at failed
    · next refers => exact .nested known refers failed
    · cases failed

end Part.Bad

private theorem exists_append_eq_error_iff {x y : Except ReferenceError (List Char)} :
    (∃ e, (do let cs ← x; return cs ++ (← y)) = .error e) ↔
      (∃ e, x = .error e) ∨ ∃ e, y = .error e := by
  cases x <;> cases y <;> simp [bind, Except.bind, pure, Except.pure]

/-- Parts cannot be expanded exactly when one of them is bad. -/
theorem exists_expandParts_eq_error_iff {nested : String → Except ReferenceError (List Char)}
    {ps : List Part} :
    (∃ e, expandParts options nested ps = .error e) ↔ ∃ p ∈ ps, p.Bad options nested := by
  induction ps with
  | nil => simp [expandParts]
  | cons p rest ih =>
      simp only [List.mem_cons, exists_eq_or_imp, ← ih]
      cases p with
      | text cs =>
          have same : expandParts options nested (.text cs :: rest) =
              (do let first ← .ok cs; return first ++ (← expandParts options nested rest)) := rfl
          rw [same, exists_append_eq_error_iff]
          simp only [reduceCtorEq, exists_false, Part.Bad.not_text]
      | flaw cs =>
          refine ⟨fun _ => .inl (.flaw cs), fun _ => ?_⟩
          unfold expandParts
          split <;> exact ⟨_, rfl⟩
      | reference name =>
          rw [expandParts]
          cases known : Keyed.get? name options with
          | none => exact ⟨fun _ => .inl (.missing known), fun _ => ⟨_, rfl⟩⟩
          | some inner =>
              dsimp only
              rw [Part.Bad.reference_iff known]
              split
              · exact exists_append_eq_error_iff
              · exact exists_append_eq_error_iff

theorem exists_expandWithin_eq_error_iff :
    (∃ e, expandWithin options depth value = .error e) ↔ Broken options depth value := by
  induction depth generalizing value with
  | zero => exact ⟨fun _ => .tooDeep value, fun _ => ⟨_, rfl⟩⟩
  | succ depth ih =>
      rw [expandWithin, exists_expandParts_eq_error_iff]
      constructor
      · rintro ⟨p, part, bad⟩
        cases bad with
        | flaw => exact .flawed part
        | missing unknown => exact .missing part unknown
        | nested known refers failed => exact .nested part known refers (ih.mp ⟨_, failed⟩)
      · intro broken
        cases broken with
        | flawed part => exact ⟨_, part, .flaw _⟩
        | missing part unknown => exact ⟨_, part, .missing unknown⟩
        | nested part known refers broken =>
            obtain ⟨e, failed⟩ := ih.mpr broken
            exact ⟨_, part, .nested known refers failed⟩

/-- A value cannot be read exactly when it is broken. -/
theorem exists_expand_eq_error_iff :
    (∃ e, expand options value = .error e) ↔ Broken options maxDepth value := by
  rw [← exists_expandWithin_eq_error_iff, expand]
  cases expandWithin options maxDepth value <;> simp [Except.map]

end CertMint.Ini
