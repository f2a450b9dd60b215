import CertMint.Proofs.Blocks
import CertMint.Proofs.Loading
import CertMint.Proofs.Trees

/-! # Where loaded settings come from

What a text says as a settings file does not hang on the file tree that it stands in. Settings that are loaded
from a file are those that its whole text says, and a file that is no text, or whose text says none, is
refused. The one other origin is something that cannot be read as a file, a directory for one: it is there, so
it is not missing; that it cannot be read is passed over, so the defaults are loaded.
-/

namespace CertMint

namespace Files.Tree

variable {t : Tree} {path : String}

/-- Something is at the path, and it cannot be read as a file. -/
structure Unreadable (t : Tree) (path : String) : Prop where
  present : t.exists_ path = true
  refused : ∀ content, t.read path ≠ .ok content

theorem unreadable_of_isFolder (folder : t.isFolder path = true) : t.Unreadable path := by
  unfold isFolder at folder
  split at folder
  · next p place =>
      split at folder
      · next found => exact ⟨by simp [exists_, place, found], by simp [read, place, found]⟩
      · cases folder
  · cases folder

theorem unreadable_of_barred {p : Place} {number : Int} {reason : String} (place : t.locate path = .ok p)
    (found : t.find? p = some (.barred number reason)) : t.Unreadable path :=
  ⟨by simp [exists_, place, found], by simp [read, place, found]⟩

end Files.Tree

namespace Settings

open Ini

variable {t : Files.Tree} {path text : String} {content : ByteArray} {s : Settings} {doc : Document}

/-- The settings that a text says, if it says any. -/
def ofText? (text : String) : Option Settings := do
  let doc ← (Document.ofSource (.ofText text)).toOption
  let entries ← (readDocument doc).toOption
  let s ← (assign {} entries).toOption
  s.check.toOption

theorem ofText?_eq_some_iff :
    ofText? text = some s ↔ ∃ doc entries, Document.ofSource (.ofText text) = .ok doc ∧
      readDocument doc = .ok entries ∧ assign {} entries = .ok s ∧ s.check = .ok s := by
  simp only [ofText?, Option.bind_eq_bind, Option.bind_eq_some_iff, toOption_eq_some_iff]
  constructor
  · rintro ⟨doc, parsed, entries, read, s', assigned, checked⟩
    obtain ⟨rfl, -⟩ := accepted_of_check checked
    exact ⟨doc, entries, parsed, read, assigned, checked⟩
  · rintro ⟨doc, entries, parsed, read, assigned, checked⟩
    exact ⟨doc, parsed, entries, read, s, assigned, checked⟩

/-! ## Files -/

theorem flaw_of_ofSource {source : Source} (parsed : Document.ofSource source = .ok doc) :
    source.flaw = none := by
  unfold Document.ofSource at parsed
  split at parsed
  · cases parsed
  · split at parsed
    · cases parsed
    · assumption

/-- The document in a file is that of its whole text. -/
theorem documentAt_eq_ok_iff (read : t.read path = .ok content) :
    documentAt t path = .ok doc ↔
      ∃ text, Text.ofUtf8? content.toList = some text ∧ Document.ofSource (.ofText text) = .ok doc := by
  have parses : documentAt t path = .ok doc ↔
      Document.ofSource (.ofOctets content.toList) = .ok doc := by
    unfold documentAt
    rw [read]
    cases parsed : Document.ofSource (.ofOctets content.toList) <;> simp [parsed]
  rw [parses]
  constructor
  · intro parsed
    cases decoded : Text.ofUtf8? content.toList with
    | none => exact absurd (flaw_of_ofSource parsed) (flaw_of_no_text decoded)
    | some text =>
        rw [ofOctets_of_text decoded] at parsed
        exact ⟨text, rfl, parsed⟩
  · rintro ⟨text, decoded, parsed⟩
    rw [ofOctets_of_text decoded]
    exact parsed

theorem exists_load_iff_of_read (read : t.read path = .ok content) :
    (∃ notes, load t path = .ok (s, notes)) ↔
      ∃ text, Text.ofUtf8? content.toList = some text ∧ ofText? text = some s := by
  constructor
  · rintro ⟨notes, loaded⟩
    have ends := loading t path
    rw [loaded] at ends
    cases ends with
    | loaded doc entries _ _ _ document _ entered assigned checked =>
        obtain ⟨text, decoded, parsed⟩ := (documentAt_eq_ok_iff read).mp document
        exact ⟨text, decoded, ofText?_eq_some_iff.mpr ⟨doc, entries, parsed, entered, assigned, checked⟩⟩
  · rintro ⟨text, decoded, given⟩
    obtain ⟨doc, entries, parsed, entered, assigned, checked⟩ := ofText?_eq_some_iff.mp given
    have document := (documentAt_eq_ok_iff read).mpr ⟨text, decoded, parsed⟩
    have present := Files.Tree.exists_of_read read
    apply exists_load_eq_ok _ (logsToText_of_assign (.inl rfl) assigned)
    simp [readFile, present, document, entered, assigned, checked]

/-! ## What cannot be read -/

theorem load_of_unreadable (unreadable : t.Unreadable path) : load t path = .ok ({}, []) := by
  have document : documentAt t path = .ok .empty := by
    unfold documentAt
    split
    · rfl
    · next content read => exact absurd read (unreadable.refused content)
  have read : readFile t path = .ok {} := by
    simp [readFile, unreadable.present, document]
    rfl
  rw [load, read]
  rfl

/-- Settings are loaded exactly when the path is that of a file and they are what the whole text of the file
    says, or something that cannot be read as a file is at the path and they are the defaults, which are loaded
    without a note then. -/
theorem load_eq_ok_iff (t : Files.Tree) (path : String) :
    (∀ s, (∃ notes, load t path = .ok (s, notes)) ↔
      (∃ content text, t.read path = .ok content ∧ Text.ofUtf8? content.toList = some text ∧
        ofText? text = some s) ∨ t.Unreadable path ∧ s = {}) ∧
    (t.Unreadable path → load t path = .ok ({}, [])) := by
  refine ⟨fun s => ⟨?_, ?_⟩, load_of_unreadable⟩
  · rintro ⟨notes, loaded⟩
    cases read : t.read path with
    | ok content =>
        obtain ⟨text, decoded, given⟩ := (exists_load_iff_of_read read).mp ⟨notes, loaded⟩
        exact .inl ⟨content, text, rfl, decoded, given⟩
    | error r =>
        have ends := loading t path
        rw [loaded] at ends
        cases ends with
        | loaded _ _ _ _ present =>
            have unreadable : t.Unreadable path := ⟨present, fun content no => by cases read.symm.trans no⟩
            cases loaded.symm.trans (load_of_unreadable unreadable)
            exact .inr ⟨unreadable, rfl⟩
  · rintro (⟨content, text, read, decoded, given⟩ | ⟨unreadable, rfl⟩)
    · exact (exists_load_iff_of_read read).mpr ⟨text, decoded, given⟩
    · exact ⟨[], load_of_unreadable unreadable⟩

/-! ### A directory and a socket in place of a file -/

/-- A tree with a directory that is named as a settings file may be, and with a socket. -/
def folderTree : Files.Tree :=
  ⟨[(Files.Place.here.child "c.ini", .folder),
    (Files.Place.here.child "s.ini", .barred 6 "No such device or address")]⟩

theorem unreadable_socket : folderTree.Unreadable "s.ini" := by
  have place : folderTree.locate "s.ini" = .ok (Files.Place.here.child "s.ini") := by decide +kernel
  exact Files.Tree.unreadable_of_barred place rfl

theorem load_eq_ok_iff_working :
    folderTree.Unreadable "." ∧ load folderTree "." = .ok ({}, []) ∧
      folderTree.Unreadable "s.ini" ∧ load folderTree "s.ini" = .ok ({}, []) := by
  have folder : folderTree.Unreadable "." := Files.Tree.unreadable_of_isFolder (by decide +kernel)
  obtain ⟨-, loads⟩ := load_eq_ok_iff folderTree "."
  obtain ⟨-, loads'⟩ := load_eq_ok_iff folderTree "s.ini"
  exact ⟨folder, loads folder, unreadable_socket, loads' unreadable_socket⟩

/-- The directory is there and it cannot be read. What is loaded are the defaults. -/
theorem folder_loaded :
    folderTree.isFolder "c.ini" = true ∧ folderTree.exists_ "c.ini" = true ∧
      (∀ content, folderTree.read "c.ini" ≠ .ok content) ∧ load folderTree "c.ini" = .ok ({}, []) := by
  have folder : folderTree.isFolder "c.ini" = true := by decide +kernel
  have unreadable := Files.Tree.unreadable_of_isFolder folder
  exact ⟨folder, unreadable.present, unreadable.refused, load_of_unreadable unreadable⟩

end Settings

end CertMint
