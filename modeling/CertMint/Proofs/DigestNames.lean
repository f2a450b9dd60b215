import CertMint.Proofs.Registration

/-! # Names of digest algorithms

A digest algorithm is found by its name in whatever case. There are four ways in which the look-up of a text
can end, and the upper case of the text and the engine decide between them. Three of them are an algorithm
and the two failures to resolve a name; the fourth is a name that is known and yet stands for no algorithm,
because it leaves open how long a digest is to be.
-/

namespace CertMint

namespace Digest.Algorithm

theorem mem_all (a : Algorithm) : a ∈ all := by
  cases a <;> decide

theorem key_injective {a b : Algorithm} (same : a.key = b.key) : a = b := by
  have apart : ∀ a ∈ all, ∀ b ∈ all, a.key = b.key → a = b := by decide
  exact apart a a.mem_all b b.mem_all same

theorem key_of_ofKey? {name : String} {a : Algorithm} (found : ofKey? name = some a) : a.key = name := by
  have same := List.find?_some found
  simpa using same

theorem key_ne_of_ofKey? {name : String} (missing : ofKey? name = none) (a : Algorithm) : a.key ≠ name := by
  have other := List.find?_eq_none.mp missing a a.mem_all
  simpa using other

end Digest.Algorithm

namespace Mint

open Digest (Algorithm)

/-- The names that leave open how long a digest is to be are the names of no algorithm. -/
theorem key_not_mem_sizedNames (a : Algorithm) : a.key ∉ sizedNames := by
  cases a <;> decide

/-- The fault of a name that an algorithm cannot be found by. -/
def resolutionFault (message : String) : Fault := Fault.operationFailed "hash resolution" message

/-- Every way in which the look-up of a digest algorithm by its name can end. -/
inductive Naming (e : Engine) (name : String) : Except Fault Algorithm → Prop
  | found (a : Algorithm) (named : a.key = Text.upper name) (supported : e.supports a = true) :
      Naming e name (.ok a)
  /-- The engine does not have the algorithm. -/
  | unsupported (a : Algorithm) (named : a.key = Text.upper name) (lacking : e.supports a = false) :
      Naming e name (.error (resolutionFault ("hash algorithm " ++ Text.quoted name ++ " is not supported")))
  | unknown (other : ∀ a : Algorithm, a.key ≠ Text.upper name) (unsized : Text.upper name ∉ sizedNames) :
      Naming e name (.error (resolutionFault ("unknown hash algorithm " ++ Text.quoted name)))
  /-- The length of the digest is left open. -/
  | sized (member : Text.upper name ∈ sizedNames) :
      Naming e name (.error (.of .type
        (Text.upper name ++ ".__init__() missing 1 required positional argument: 'digest_size'")))

theorem naming (e : Engine) (name : String) : Naming e name (digestOf (.ok e) (.text name)) := by
  simp only [digestOf, algorithmName, algorithmOf, ok_bind]
  split
  · next sized => exact .sized (List.contains_iff_mem.mp sized)
  · next unsized =>
      cases key : Algorithm.ofKey? (Text.upper name) with
      | none => exact .unknown (Algorithm.key_ne_of_ofKey? key) (mt List.contains_iff_mem.mpr unsized)
      | some a =>
          have named := Algorithm.key_of_ofKey? key
          simp only [ok_bind]
          split
          · next supported => exact .found a named supported
          · next lacking => exact .unsupported a named (Bool.eq_false_iff.mpr lacking)

namespace Naming

variable {e : Engine} {name other : String} {r r' : Except Fault Algorithm}

theorem eq_ok_iff (h : Naming e name r) (a : Algorithm) :
    r = .ok a ↔ a.key = Text.upper name ∧ e.supports a = true := by
  constructor
  · rintro rfl
    cases h with
    | found _ named supported => exact ⟨named, supported⟩
  · rintro ⟨named, supported⟩
    cases h with
    | found b named' _ => exact congrArg Except.ok (Algorithm.key_injective (named'.trans named.symm))
    | unsupported b named' lacking =>
        obtain rfl := Algorithm.key_injective (named.trans named'.symm)
        cases supported.symm.trans lacking
    | unknown other _ => exact absurd named (other a)
    | sized member => exact absurd (named ▸ member) (key_not_mem_sizedNames a)

/-- The name is one that leaves a length open, or every fault is that of a failure to resolve it. -/
theorem kind_of_error (h : Naming e name r) :
    (Text.upper name ∈ sizedNames → ∃ f, r = .error f ∧ f.kind = .type) ∧
    (Text.upper name ∉ sizedNames → ∀ f, r = .error f → f.kind = .operationFailed (.text "hash resolution")) := by
  cases h with
  | found a named _ =>
      refine ⟨?_, nofun⟩
      intro member
      exact absurd (named ▸ member) (key_not_mem_sizedNames a)
  | unsupported a named _ =>
      refine ⟨?_, ?_⟩
      · intro member
        exact absurd (named ▸ member) (key_not_mem_sizedNames a)
      · rintro _ _ ⟨⟩
        rfl
  | unknown _ unsized =>
      refine ⟨fun member => absurd member unsized, ?_⟩
      rintro _ _ ⟨⟩
      rfl
  | sized member => exact ⟨fun _ => ⟨_, rfl, rfl⟩, fun unsized => absurd member unsized⟩

/-- Names with one upper case have the same algorithm, or faults of the same kind. -/
theorem congr (h : Naming e name r) (h' : Naming e other r') (same : Text.upper other = Text.upper name) :
    r'.mapError (·.kind) = r.mapError (·.kind) := by
  obtain ⟨sized, unsized⟩ := h.kind_of_error
  obtain ⟨sized', unsized'⟩ := h'.kind_of_error
  rw [same] at sized' unsized'
  cases r with
  | ok a =>
      have found := (h.eq_ok_iff a).mp rfl
      rw [← same] at found
      rw [(h'.eq_ok_iff a).mpr found]
  | error f =>
      cases r' with
      | ok a =>
          have found := (h'.eq_ok_iff a).mp rfl
          rw [same] at found
          cases (h.eq_ok_iff a).mpr found
      | error f' =>
          have kinds : f'.kind = f.kind := by
            by_cases member : Text.upper name ∈ sizedNames
            · obtain ⟨_, ⟨⟩, kind⟩ := sized member
              obtain ⟨_, ⟨⟩, kind'⟩ := sized' member
              rw [kind, kind']
            · rw [unsized member f rfl, unsized' member f' rfl]
          exact congrArg Except.error kinds

end Naming

/-- Whatever the engine has, the look-up of a text gives an algorithm exactly when its upper case is the name
    of one that the engine has. It fails to resolve every other text, but for those whose upper case is a name
    that leaves the length of a digest open: these end with a fault of another kind. Texts with one upper case
    end alike. -/
theorem resolve_ends {w : Workshop} {e : Engine} (there : w.engine = .ok e) (name : String) :
    ∃ r, (resolve (.text name)).perform w = (r, w) ∧
      (∀ a, r = .ok a ↔ a.key = Text.upper name ∧ e.supports a = true) ∧
      (Text.upper name ∈ sizedNames → ∃ f, r = .error f ∧ f.kind = .type) ∧
      (Text.upper name ∉ sizedNames →
        ∀ f, r = .error f → f.kind = .operationFailed (.text "hash resolution")) ∧
      ∀ other, Text.upper other = Text.upper name →
        ∃ r', (resolve (.text other)).perform w = (r', w) ∧
          r'.mapError (·.kind) = r.mapError (·.kind) := by
  have looked (text : String) : (resolve (.text text)).perform w = (digestOf (.ok e) (.text text), w) := by
    rw [perform_resolve, there]
  have ends := naming e name
  obtain ⟨sized, unsized⟩ := ends.kind_of_error
  refine ⟨_, looked name, ends.eq_ok_iff, sized, unsized, ?_⟩
  intro other same
  exact ⟨_, looked other, ends.congr (naming e other) same⟩

/-- A long s is a letter of SHA256 in upper case only. -/
theorem resolve_ends_longS :
    Text.upper "\u017fha256" = "SHA256" ∧
    (resolve (.text "\u017fha256")).perform stockedWorkshop = (.ok .sha256, stockedWorkshop) := by
  have upper : Text.upper "\u017fha256" = "SHA256" := by decide +kernel
  obtain ⟨r, looked, found, -⟩ := resolve_ends (w := stockedWorkshop) rfl "\u017fha256"
  obtain rfl := (found .sha256).mpr ⟨upper.symm, rfl⟩
  exact ⟨upper, looked⟩

/-- The length of a SHAKE128 digest is left open, and that is not reported as a failure to resolve the name. -/
theorem shake_not_resolved :
    ∃ f, (resolve (.text "shake128")).perform stockedWorkshop = (.error f, stockedWorkshop) ∧
      f.kind ≠ .operationFailed (.text "hash resolution") := by
  have upper : Text.upper "shake128" = "SHAKE128" := by decide +kernel
  have sized := (naming ⟨"", fun _ => true⟩ "shake128").kind_of_error.1 (by rw [upper]; decide)
  obtain ⟨f, failed, kind⟩ := sized
  refine ⟨f, ?_, ?_⟩
  · rw [perform_resolve, ← failed]
    rfl
  · rw [kind]
    nofun

end Mint

end CertMint
