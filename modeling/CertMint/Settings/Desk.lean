import CertMint.Settings.File

/-! # The settings desk

A desk holds the settings that were loaded last. Loading that fails leaves them as they were.
-/

namespace CertMint.Settings

/-- A file tree, the settings loaded last, and the notes made so far, oldest first. -/
structure Desk where
  files : Files.Tree
  loaded : Option Settings := none
  notes : List Log.Note := []

namespace Desk

/-- Load settings from a file and hold them. -/
def load (d : Desk) (path : String) : Except Fault Settings × Desk :=
  match Settings.load d.files path with
  | .ok (s, notes) => (.ok s, { d with loaded := some s, notes := d.notes ++ notes })
  | .error f => (.error f, d)

def current (d : Desk) : Except Fault Settings :=
  match d.loaded with
  | some s => .ok s
  | none => .error (.of .value "No configuration loaded. Call load_config() first.")

/-- Begin anew: with nothing loaded, or with the settings of a file. If these cannot be loaded, the
    desk stays as it was. -/
def restart (d : Desk) (path : Option String) : Except Fault Unit × Desk :=
  match path.filter (!·.isEmpty) with
  | none => (.ok (), { d with loaded := none })
  | some path => match d.load path with
    | (.ok _, d) => (.ok (), d)
    | (.error f, _) => (.error f, d)

def review (d : Desk) (entries : List (String × Datum)) : Except Fault Review := do
  (← ofNamed entries).review d.files

def writeDefault (d : Desk) (path : String) : Except Fault Unit × Desk :=
  match (Settings.writeDefault path).run d.files with
  | (.ok note, files) => (.ok (), { d with files, notes := d.notes ++ [note] })
  | (.error f, files) => (.error f, { d with files })

end Desk

end CertMint.Settings
