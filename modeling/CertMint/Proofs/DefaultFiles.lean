import CertMint.Proofs.Growth
import CertMint.Proofs.Saving
import CertMint.Settings.Desk

/-! # The file with the default settings

Wherever the file with the default settings is written, loading it gives the default settings and no note. Of the
files and directories that were there, only what stood at its path is replaced; what is new besides it are
directories on the way to it.
-/

namespace CertMint.Settings

open Files

variable {t t' : Tree} {path : String} {note : Log.Note}

/-- What a tree is after a file was written to a path, for which missing directories were made. -/
structure Saved (path : String) (content : ByteArray) (t t' : Tree) (p : Place) : Prop where
  located : t'.locate path = .ok p
  read : t'.read path = .ok content
  free : t.find? p ≠ some .folder
  elsewhere : ∀ q, q ≠ p → t'.find? q = t.find? q ∨
    t.find? q = none ∧ t'.find? q = some .folder ∧ t'.PassesThrough path q

/-- Writing a file to a tree that has grown on the way to it. -/
theorem exists_saved {t₁ : Tree} {content : ByteArray} (grows : Tree.Grows path t t₁)
    (written : t₁.write path content = .ok t') : ∃ p, Saved path content t t' p := by
  obtain ⟨holder, name, targets, puts⟩ := Tree.exists_puts written
  refine ⟨holder.child name, ?_⟩
  have located := Tree.locate_of_puts targets puts
  constructor
  case located => exact located
  case read => exact Tree.read_of_puts located puts
  case free =>
      intro folder
      exact puts.free (grows.toExtends.folder _ folder)
  case elsewhere =>
      intro q other
      rw [puts.elsewhere q other]
      apply (grows q).imp_right
      rintro ⟨none_, folder, passes⟩
      exact ⟨none_, folder, puts.toExtends.passesThrough passes⟩

theorem write_of_writeThere {t₁ : Tree}
    (h : (do
      Change.tryWith path (·.write path defaultFile.toUTF8)
      return Log.Note.of .info logger ("Created default configuration file: " ++ path) :
        Change Log.Note).run t₁ = (.ok note, t')) : t₁.write path defaultFile.toUTF8 = .ok t' := by
  obtain ⟨_, t₂, written, same⟩ := Change.exists_of_run_bind h
  obtain rfl := (Prod.mk.inj same).2
  exact Change.eq_ok_of_run_tryWith written

/-- The tree grows on the way to the file; then the file is written. -/
theorem exists_grows_of_writeDefault (h : (writeDefault path).run t = (.ok note, t')) :
    ∃ t₁, Tree.Grows path t t₁ ∧ t₁.write path defaultFile.toUTF8 = .ok t' := by
  rw [writeDefault] at h
  dsimp only at h
  split at h
  · next some_ =>
      have full : directory path ≠ "" := by
        intro empty
        simp [empty] at some_
      have growing : Change.Growing path (Change.makeFolders (directory path)) :=
        (Change.growing_makeFoldersWithin _ _).of_directory full
      obtain ⟨_, t₁, made, h⟩ := Change.exists_of_run_bind h
      have grows := growing t
      rw [made] at grows
      exact ⟨t₁, grows, write_of_writeThere h⟩
  · exact ⟨t, .refl path t, write_of_writeThere h⟩

/-- The file with the default settings is loaded as the default settings, without a note. -/
theorem load_of_read_defaultFile (read : t.read path = .ok defaultFile.toUTF8) : load t path = .ok ({}, []) := by
  rw [← fileText_default] at read
  rw [load, readFile_fileText check_default portable_default read]
  rfl

namespace Desk

variable {d d' : Desk}

/-- After the file with the default settings was written, loading it gives them and makes no note, whatever was
    there before. -/
theorem load_after_writeDefault (h : d.writeDefault path = (.ok (), d')) :
    d'.load path = (.ok {}, { d' with loaded := some {} }) ∧
      ∃ p, Saved path defaultFile.toUTF8 d.files d'.files p := by
  rw [writeDefault] at h
  split at h
  · next note files ran =>
      obtain rfl := (Prod.mk.inj h).2
      obtain ⟨t₁, grows, written⟩ := exists_grows_of_writeDefault ran
      obtain ⟨p, saved⟩ := exists_saved grows written
      refine ⟨?_, p, saved⟩
      rw [Desk.load, load_of_read_defaultFile saved.read]
      simp only [List.append_nil]
  · cases h

/-! ### Two missing directories -/

/-- A desk with one file. -/
def besideKept : Desk where
  files := ⟨[(Place.here.child "kept", .file .empty)]⟩

/-- Its files when the directories have been made, and not the file. -/
def besideFolders : Tree :=
  ⟨[(Place.here.child "kept", .file .empty), (Place.here.child "new", .folder), (Place.here.child "conf", .folder)]⟩

/-- The desk after the file was written through a directory that is left at once into another one. -/
def besideKeptAfter : Desk where
  files := ⟨besideFolders.entries ++ [((Place.here.child "conf").child "c.ini", .file defaultFile.toUTF8)]⟩
  notes := [Log.Note.of .info logger "Created default configuration file: new/../conf/c.ini"]

theorem writeDefault_besideKept : besideKept.writeDefault "new/../conf/c.ini" = (.ok (), besideKeptAfter) := by
  have holder : directory "new/../conf/c.ini" = "new/../conf" := by decide +kernel
  have nonempty : (!("new/../conf" : String).isEmpty) = true := by decide
  have made : (Change.makeFoldersWithin 11 "new/../conf").run besideKept.files = (.ok (), besideFolders) := rfl
  have made : (Change.makeFolders "new/../conf").run besideKept.files = (.ok (), besideFolders) := made
  -- The content stays a variable: evaluation is not to open the text of the file.
  have written (content : ByteArray) :
      (Change.tryWith "new/../conf/c.ini" (·.write "new/../conf/c.ini" content)).run besideFolders =
        (.ok (), ⟨besideFolders.entries ++ [((Place.here.child "conf").child "c.ini", .file content)]⟩) := rfl
  rw [writeDefault, Settings.writeDefault, holder]
  simp only [nonempty, if_true, run_bind, made, written]
  rfl

theorem load_after_writeDefault_besideKept :
    besideKept.writeDefault "new/../conf/c.ini" = (.ok (), besideKeptAfter) ∧
      besideKeptAfter.load "new/../conf/c.ini" = (.ok {}, { besideKeptAfter with loaded := some {} }) ∧
      ∃ p, Saved "new/../conf/c.ini" defaultFile.toUTF8 besideKept.files besideKeptAfter.files p :=
  ⟨writeDefault_besideKept, load_after_writeDefault writeDefault_besideKept⟩

end Desk

end CertMint.Settings
