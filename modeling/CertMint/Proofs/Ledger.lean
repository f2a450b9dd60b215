import CertMint.Mint.Forge
import CertMint.Proofs.Work

/-! # Ledgers

A ledger says of two states of a workshop which keys and serial numbers were taken from the supplies
between them, how often the clock was read, and which certificates were issued. Each certificate that is
issued is noted by the forge, also when the work that it was issued for fails later; the notes show that
a ledger leaves none out.
-/

namespace CertMint.Mint

open X509

/-! ## Issues -/

/-- A certificate that was issued, with the subject's key pair and the serial number drawn for it. -/
structure Issue where
  subject : Rsa.KeyPair
  serial : Datum
  /-- Whether the certificate was given the valid window. -/
  valid : Bool
  /-- The distance from the end of the chain. -/
  distance : Nat
  certificate : Certificate

namespace Issue

def note (i : Issue) : Log.Note :=
  .of .debug forgeLogger ("Issued certificate serial=" ++ i.serial.plain?.getD ""
    ++ " distance_from_leaf=" ++ (Datum.int i.distance).plain?.getD ""
    ++ " valid=" ++ (Datum.bool i.valid).plain?.getD "")

/-- The certificate carries the subject's name and the serial number that was drawn. -/
structure Carries (i : Issue) : Prop where
  subject : i.certificate.subject = keyName i.subject.publicKey
  serial : i.serial.int? = some i.certificate.serial

end Issue

def issueNotes (w : Workshop) : List Log.Note := w.notes.filter (·.logger == forgeLogger)

/-- Only the forge's notes are those of issues. -/
theorem issueNotes_of_note {w w' : Workshop} {n : Log.Note} (noted : w'.notes = w.notes ++ [n])
    (other : n.logger ≠ forgeLogger) : issueNotes w' = issueNotes w := by
  have skipped : [n].filter (·.logger == forgeLogger) = [] := by simp [other]
  rw [issueNotes, noted, List.filter_append, skipped, List.append_nil, issueNotes]

/-- Between two states of a workshop nothing was used up and nothing was issued. -/
structure Idles (w w' : Workshop) : Prop extends Spends w w' [] [] 0 where
  issueNotes_eq : issueNotes w' = issueNotes w

namespace Idles

theorem refl (w : Workshop) : Idles w w := ⟨.nothing w, rfl⟩

theorem trans {w w₁ w' : Workshop} (h : Idles w w₁) (h' : Idles w₁ w') : Idles w w' :=
  ⟨h.toSpends.trans h'.toSpends, h'.issueNotes_eq.trans h.issueNotes_eq⟩

theorem of_note {w w' : Workshop} {n : Log.Note} (spends : Spends w w' [] [] 0)
    (noted : w'.notes = w.notes ++ [n]) (other : n.logger ≠ forgeLogger) : Idles w w' :=
  ⟨spends, issueNotes_of_note noted other⟩

end Idles

/-! ## Ledgers -/

/-- What was taken and issued between two states of a workshop. The certificates were issued in the order
    in which their subjects' keys and their serial numbers were taken, one for each from the first on. -/
structure Ledger (w w' : Workshop) (keys : List (Except Fault Rsa.KeyPair))
    (serials : List (Except Fault Datum)) (readings : Nat) (issues : List Issue) : Prop
    extends Spends w w' keys serials readings where
  issueNotes_eq : issueNotes w' = issueNotes w ++ issues.map Issue.note
  subjects : issues.map (.ok ·.subject) <+: keys
  numbers : issues.map (.ok ·.serial) <+: serials
  carries : ∀ i ∈ issues, i.Carries

/-- What comes next in a list, at the end of what has been gone through. -/
theorem map_concat_prefix {α β : Type} {f : α → β} {l : List α} {a : α} {bs : List β}
    (h : l.map f <+: bs) (next : bs[l.length]? = some (f a)) : (l ++ [a]).map f <+: bs := by
  obtain ⟨rest, rfl⟩ := h
  rw [List.getElem?_append_right (Nat.le_of_eq (List.length_map f)), List.length_map,
    Nat.sub_self] at next
  obtain ⟨more, rfl⟩ : ∃ more, rest = f a :: more := by
    cases rest with
    | nil => cases next
    | cons b more => exact ⟨more, by rw [Option.some.inj next]⟩
  exact ⟨more, by rw [List.map_append, List.map_singleton, List.append_assoc, List.singleton_append]⟩

namespace Ledger

variable {w w₁ w' : Workshop} {keys keys' : List (Except Fault Rsa.KeyPair)}
  {serials : List (Except Fault Datum)} {readings : Nat} {issues : List Issue}

theorem of_idles (h : Idles w w') : Ledger w w' [] [] 0 [] where
  toSpends := h.toSpends
  issueNotes_eq := by rw [h.issueNotes_eq, List.map_nil, List.append_nil]
  subjects := List.nil_prefix
  numbers := List.nil_prefix
  carries i member := by cases member

theorem spend {serials' : List (Except Fault Datum)} {readings' : Nat}
    (h : Ledger w w₁ keys serials readings issues) (spends : Spends w₁ w' keys' serials' readings')
    (notes : issueNotes w' = issueNotes w₁) :
    Ledger w w' (keys ++ keys') (serials ++ serials') (readings + readings') issues where
  toSpends := h.toSpends.trans spends
  issueNotes_eq := notes.trans h.issueNotes_eq
  subjects := h.subjects.trans (List.prefix_append _ _)
  numbers := h.numbers.trans (List.prefix_append _ _)
  carries := h.carries

theorem idle (h : Ledger w w₁ keys serials readings issues) (idles : Idles w₁ w') :
    Ledger w w' keys serials readings issues := by
  have all := h.spend idles.toSpends idles.issueNotes_eq
  rwa [List.append_nil, List.append_nil, Nat.add_zero] at all

theorem after_idle (idles : Idles w w₁) (h : Ledger w₁ w' keys serials readings issues) :
    Ledger w w' keys serials readings issues where
  toSpends := idles.toSpends.between h.toSpends (.nothing w')
  issueNotes_eq := by rw [h.issueNotes_eq, idles.issueNotes_eq]
  subjects := h.subjects
  numbers := h.numbers
  carries := h.carries

/-- A certificate is issued with the next serial number, for a subject whose key was the next that none
    has been issued for. -/
theorem issue (h : Ledger w w₁ keys serials readings issues) {i : Issue}
    (spends : Spends w₁ w' [] [.ok i.serial] 1) (noted : issueNotes w' = issueNotes w₁ ++ [i.note])
    (subjectAt : keys[issues.length]? = some (.ok i.subject))
    (serialAt : serials.length = issues.length) (carries : i.Carries) :
    Ledger w w' keys (serials ++ [.ok i.serial]) (readings + 1) (issues ++ [i]) where
  toSpends := by
    have all := h.toSpends.trans spends
    rwa [List.append_nil] at all
  issueNotes_eq := by
    rw [noted, h.issueNotes_eq, List.append_assoc, List.map_append, List.map_singleton]
  subjects := map_concat_prefix h.subjects subjectAt
  numbers := by
    refine map_concat_prefix (h.numbers.trans (List.prefix_append _ _)) ?_
    rw [← serialAt, List.getElem?_append_right (Nat.le_refl _), Nat.sub_self]
    rfl
  carries j member := by
    rcases List.mem_append.mp member with member | member
    · exact h.carries j member
    · rwa [List.mem_singleton.mp member]

end Ledger

end CertMint.Mint
