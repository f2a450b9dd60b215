import CertMint.Datum
import CertMint.Proofs.Keyed

/-! # Records whose keys are texts

A record whose keys are texts is a keyed list: an entry that is put into it replaces the one under its name or
comes last.
-/

namespace CertMint.Datum

open Keyed

/-- Entries under names, as entries of a record. -/
def underNames (entries : List (String × Datum)) : List (Datum × Datum) :=
  entries.map fun (name, d) => (.text name, d)

/-- What a record has under a name. -/
def at? (d : Datum) (name : String) : Option Datum :=
  match d with
  | .record entries => (entries.find? fun entry => entry.1.same (.text name)).map Prod.snd
  | _ => Option.none

@[simp] theorem underNames_cons (name : String) (d : Datum) (rest : List (String × Datum)) :
    underNames ((name, d) :: rest) = (.text name, d) :: underNames rest := rfl

theorem at?_named (entries : List (String × Datum)) (name : String) :
    (named entries).at? name = get? name entries := by
  change ((underNames entries).find? fun entry => entry.1.same (.text name)).map Prod.snd = _
  induction entries with
  | nil => rfl
  | cons entry rest ih =>
      obtain ⟨key, d⟩ := entry
      by_cases found : (key == name) = true <;> simp [same, found, get?, ih]

theorem insertEntry_underNames (name : String) (d : Datum) (entries : List (String × Datum)) :
    insertEntry (.text name) d (underNames entries) = underNames (put name d entries) := by
  induction entries with
  | nil => rfl
  | cons entry rest ih =>
      obtain ⟨key, e⟩ := entry
      by_cases found : (key == name) = true <;> simp [insertEntry, same, found, put, ih]

/-- Entries are put into a record one after the other. -/
theorem foldl_insertEntry (entries into : List (String × Datum)) :
    (underNames entries).foldl (fun done e => insertEntry e.1 e.2 done) (underNames into) =
      underNames (putAll entries into) := by
  induction entries generalizing into with
  | nil => rfl
  | cons entry rest ih =>
      obtain ⟨name, d⟩ := entry
      simp only [underNames_cons, List.foldl_cons, insertEntry_underNames, ih]
      rfl

end CertMint.Datum
