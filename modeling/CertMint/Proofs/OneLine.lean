import CertMint.Proofs.Numerals
import CertMint.Proofs.ReadBack

/-! # Texts on one line

What certificates are made up of, as it is written: integers, moments and names that were derived from keys
have no line ends in them, and neither has what is put together from them.
-/

namespace CertMint

namespace Ini

open Text (isBlank)

variable {s s' : String} {cs cs' : List Char}

instance (s : String) : Decidable (OneLine s) := inferInstanceAs (Decidable (_ ∧ _))

theorem OneLine.append_iff : OneLine (s ++ s') ↔ OneLine s ∧ OneLine s' := by
  simp only [OneLine, String.toList_append, List.mem_append, not_or]
  exact and_and_and_comm

/-- Characters none of which is a blank. -/
def Solid (cs : List Char) : Prop := ∀ c ∈ cs, isBlank c = false

namespace Solid

theorem append (h : Solid cs) (h' : Solid cs') : Solid (cs ++ cs') :=
  List.forall_mem_append.mpr ⟨h, h'⟩

theorem cons {c : Char} (first : isBlank c = false) (h : Solid cs) : Solid (c :: cs) :=
  List.forall_mem_cons.mpr ⟨first, h⟩

theorem oneLine (h : Solid cs) : OneLine (String.ofList cs) := by
  apply oneLine_of_solid
  rwa [String.toList_ofList]

end Solid

theorem oneLine_int (i : Int) : OneLine (toString i) := by
  apply oneLine_of_solid
  intro c member
  exact Integer.isBlank_of_mem_toString member

theorem oneLine_nat (n : Nat) : OneLine (toString n) := oneLine_int n

end Ini

open Ini (OneLine Solid)

namespace Moment

theorem solid_padded (width n : Nat) : Solid (padded width n) := by
  intro c member
  exact Integer.isBlank_of_isDigit (isDigit_of_mem_padded member)

theorem solid_clockText (micros : Nat) (withSeconds : Bool) : Solid (clockText micros withSeconds) := by
  have hm := (solid_padded 2 (micros / 1000000 / 3600)).append
    (.cons (c := ':') (by decide) (solid_padded 2 (micros / 1000000 / 60 % 60)))
  have hms := hm.append (.cons (c := ':') (by decide) (solid_padded 2 (micros / 1000000 % 60)))
  have fraction := Solid.cons (c := '.') (by decide) (solid_padded 6 (micros % 1000000))
  simp only [clockText]
  split <;> split
  · exact hms
  · exact hm
  · exact hms.append fraction
  · exact hm.append fraction

theorem solid_dateText (m : Moment) : Solid m.dateText := by
  have month := Solid.cons (c := '-') (by decide) (solid_padded 2 m.date.month)
  have day := Solid.cons (c := '-') (by decide) (solid_padded 2 m.date.day)
  exact ((solid_padded 4 m.date.year).append month).append day

theorem oneLine_iso (m : Moment) : OneLine m.iso := by
  have time := (solid_dateText m).append (.cons (c := 'T') (by decide) (solid_clockText m.ofDay true))
  apply Solid.oneLine
  cases m.offset with
  | none => simpa using time
  | some offset =>
      have zone : Solid (offsetText offset) := by
        apply Solid.cons _ (solid_clockText _ _)
        split <;> decide
      simpa using time.append zone

end Moment

namespace X509

namespace Attribute

variable {c d : Char} {cs : List Char}

theorem mem_escapeChar (member : c ∈ escapeChar d) : c = d ∨ c = '\\' ∨ c = '0' := by
  unfold escapeChar at member
  split at member
  · simp only [List.mem_cons, List.not_mem_nil, or_false, or_self] at member
    exact .inr member
  · split at member
    · simp only [List.mem_cons, List.not_mem_nil, or_false] at member
      exact member.symm.imp_right .inl
    · exact .inl (List.mem_singleton.mp member)

theorem mem_escapeFirst (member : c ∈ escapeFirst cs) : c ∈ cs ∨ c = '\\' := by
  unfold escapeFirst at member
  split at member
  · exact (List.mem_cons.mp member).symm
  · exact (List.mem_cons.mp member).symm
  · exact .inl member

theorem mem_escapeLast (member : c ∈ escapeLast cs) : c ∈ cs ∨ c = '\\' := by
  unfold escapeLast at member
  split at member
  · next before ends =>
      rw [← List.mem_reverse, ends]
      rw [List.mem_reverse] at member
      simp only [List.mem_cons] at member ⊢
      rcases member with blank | backslash | inside
      · exact .inl (.inl blank)
      · exact .inr backslash
      · exact .inl (.inr inside)
  · exact .inl member

/-- Escaping puts in backslashes and zeros only. -/
theorem mem_escape (member : c ∈ escape cs) : c ∈ cs ∨ c = '\\' ∨ c = '0' := by
  rcases mem_escapeLast member with member | backslash
  · rcases mem_escapeFirst member with member | backslash
    · obtain ⟨d, inside, member⟩ := List.mem_flatMap.mp member
      rcases mem_escapeChar member with rfl | put
      · exact .inl inside
      · exact .inr put
    · exact .inr (.inl backslash)
  · exact .inr (.inl backslash)

end Attribute

theorem oneLine_of_text_ofCommonName {s line : String} (plain : OneLine s)
    (text : (Name.ofCommonName s).text = .ok line) : OneLine line := by
  rw [Name.text_ofCommonName] at text
  obtain rfl := Except.ok.inj text
  have absent (c : Char) (other : c ≠ '\\' ∧ c ≠ '0') (h : c ∉ s.toList) :
      c ∉ (String.ofList (Attribute.escape s.toList)).toList := by
    rw [String.toList_ofList]
    intro member
    rcases Attribute.mem_escape member with inside | backslash | zero
    · exact h inside
    · exact other.1 backslash
    · exact other.2 zero
  apply OneLine.append ⟨by decide, by decide⟩
  exact ⟨absent _ (by decide) plain.1, absent _ (by decide) plain.2⟩

end X509

end CertMint
