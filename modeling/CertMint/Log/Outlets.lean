import CertMint.Log.Record
import CertMint.Files.Folders
import CertMint.Settings.Basic
import CertMint.Text.LetterCase

/-! # Where log records go

Records of a high enough level go to the console and, where settings name one, to a log file. A file
that would grow too long is moved aside first, under its name with a number; three such files are
kept. Before anything is configured, warnings and graver records go to the console as bare messages.
-/

namespace CertMint.Log

/-- An outlet for records. -/
inductive Outlet where
  | console (level : Int)
  /-- A file, by its normal path and its place. -/
  | file (level : Int) (path : String) (place : Files.Place)

namespace Outlet

/-- The least level of records that the outlet takes. -/
def level : Outlet → Int
  | .console level => level
  | .file level _ _ => level

end Outlet

/-- What takes records: an outlet, or something that someone else attached and that does with records as
    it likes. Two handlers may have the same outlet; they are told apart by their numbers. -/
structure Handler where
  number : Nat
  outlet : Option Outlet

theorem Handler.number_lt_of_mem_nil : ∀ h ∈ ([] : List Handler), h.number < 0 :=
  fun _ member => nomatch member

/-- The handlers, with the files and the console that their outlets write to. -/
structure Outlets where
  /-- The least level of records that are handled at all. -/
  level : Int := 30
  /-- The handlers that are attached, in the order in which a record is given to them. -/
  handlers : List Handler := []
  /-- How many handlers have been made. They are numbered in this order. -/
  made : Nat := 0
  files : Files.Tree
  /-- The text of the working directory in messages. -/
  directory : String
  host : Host := CertMint.Log.Host.universal
  /-- What was written to the console, newest first. -/
  console : List String := []
  number_lt : ∀ h ∈ handlers, h.number < made := by
    exact CertMint.Log.Handler.number_lt_of_mem_nil

namespace Outlets

/-- The length at which a log file is moved aside. -/
def maxLength : Nat := 5 * 1024 * 1024

/-- How many files that were moved aside are kept. -/
def backups : Nat := 3

/-- The level from which on bare messages are written when nothing is configured. -/
def bareLevel : Int := 30

/-- The outlets of the handlers that are attached. -/
def outlets (o : Outlets) : List Outlet := o.handlers.filterMap (·.outlet)

/-! ## Writing -/

def toConsole (o : Outlets) (line : String) : Outlets :=
  { o with console := (line ++ "\n") :: o.console }

/-- The place of a file that was moved aside. -/
def backupPlace (p : Files.Place) (number : Nat) : Files.Place :=
  match p.names.getLast? with
  | some name => { p with names := p.names.dropLast ++ [name ++ "." ++ toString number] }
  | none => p

/-- Move what is at a place to another one. -/
def move (t : Files.Tree) (source target : Files.Place) : Files.Tree :=
  match t.find? source with
  | some e => (t.remove source).put target e
  | none => t

/-- Move the files that were moved aside one number up, the highest first. -/
def moveBackups (t : Files.Tree) (p : Files.Place) : Nat → Files.Tree
  | 0 => t
  | n + 1 => moveBackups (move t (backupPlace p (n + 1)) (backupPlace p (n + 2))) p n

/-- Move a log file aside and begin it anew. -/
def rotate (t : Files.Tree) (p : Files.Place) : Files.Tree :=
  (move (moveBackups t p (backups - 1)) p (backupPlace p 1)).put p (.file .empty)

/-- The content of the file at a place. -/
def contentAt (t : Files.Tree) (p : Files.Place) : ByteArray :=
  match t.find? p with
  | some (.file content) => content
  | _ => .empty

def toFile (t : Files.Tree) (p : Files.Place) (line : String) : Files.Tree :=
  let line := line ++ "\n"
  let t := if maxLength ≤ (contentAt t p).size + line.length then rotate t p else t
  t.put p (.file (contentAt t p ++ line.toUTF8))

/-- Give a record to an outlet. A record that cannot be written is lost. -/
def give (o : Outlets) (r : Record) : Outlet → Outlets
  | .console level =>
    if r.level < level then o
    else match r.consoleLine o.host.zone with
      | .ok line => o.toConsole line
      | .error _ => o
  | .file level _ place =>
    if r.level < level then o
    else match r.jsonLine o.host with
      | .ok line => { o with files := toFile o.files place line }
      | .error _ => o

def handles (o : Outlets) (level : Int) : Bool := 0 < level && o.level ≤ level

def handle (o : Outlets) (r : Record) : Outlets :=
  if !o.handles r.level then o
  else if o.handlers.isEmpty then
    if r.level < bareLevel then o
    else match r.bareLine with
      | .ok line => o.toConsole line
      | .error _ => o
  else o.outlets.foldl (fun o outlet => o.give r outlet) o

def handleNotes (o : Outlets) (created : Binary64) (notes : List Note) : Outlets :=
  notes.foldl (fun o n => o.handle (.ofNote created n)) o

/-! ## Attaching and detaching -/

/-- Attach a handler, unless it is attached already. -/
def attach (o : Outlets) (h : Handler) (made : h.number < o.made) : Outlets :=
  if o.handlers.any (·.number == h.number) then o
  else { o with
    handlers := o.handlers ++ [h]
    number_lt := fun k member => (List.mem_append.mp member).elim (o.number_lt k) fun last =>
      List.mem_singleton.mp last ▸ made }

/-- Make a handler and attach it. -/
def attachNew (o : Outlets) (outlet : Option Outlet) : Outlets :=
  let counted : Outlets := { o with
    made := o.made + 1
    number_lt := fun h member => Nat.lt_succ_of_lt (o.number_lt h member) }
  counted.attach ⟨o.made, outlet⟩ (Nat.lt_succ_self o.made)

/-- Detach a handler, if it is attached. -/
def detach (o : Outlets) (h : Handler) : Outlets :=
  { o with
    handlers := o.handlers.eraseP (·.number == h.number)
    number_lt := fun k member => o.number_lt k (List.mem_of_mem_eraseP member) }

/-- Detach every handler, one after the other, as they were attached in the beginning. -/
def detachAll (o : Outlets) : Outlets := o.handlers.foldl detach o

/-! ## Configuring -/

/-- The names of levels that settings can give, and their ranks. -/
def ranks : List (String × Int) :=
  [("NOTSET", 0), ("DEBUG", 10), ("INFO", 20), ("WARN", 30), ("WARNING", 30), ("ERROR", 40),
   ("FATAL", 50), ("CRITICAL", 50)]

def defaultRank : Int := 20

/-- The name that stands for a line format and is no level. -/
def formatName : String := "BASIC_FORMAT"

/-- The line format that stands under that name. -/
def formatText : String := "%(levelname)s:%(name)s:%(message)s"

/-- The rank of the level in a field of settings. -/
def rankOf : Datum → Except Fault Int
  | .text s =>
    let name := Text.upper s
    if name = formatName then .error (.of .value ("Unknown level: " ++ Text.quoted formatText))
    else .ok ((ranks.lookup name).getD defaultRank)
  | .octets _ => .error (.of .type "attribute name must be string, not 'bytes'")
  | d => .error (.of .attribute ("'" ++ d.kindName ++ "' object has no attribute 'upper'"))

def pathOf : Datum → Except Fault String
  | .text s => .ok s
  | .octets _ => .error (.of .type ("argument should be a str object or an os.PathLike object "
      ++ "returning str, not <class 'bytes'>"))
  | d => .error (.of .type ("expected str, bytes or os.PathLike object, not " ++ d.bareKindName))

/-- The full path text of a normal path. -/
def fullPath (directory path : String) : String :=
  if Files.isAbsolute path then path
  else if path.isEmpty then directory
  else directory ++ "/" ++ path

/-- Open a log file, and make the directory for it where that is missing. -/
def openLog (directory path : String) (level : Int) : Files.Change Outlet := do
  Files.Change.makeHolder path
  let normal := Files.normal path
  match (← get).openFile (if normal.isEmpty then "." else normal) with
  | .ok (place, t) =>
    set t
    return .file level normal place
  | .error r => throw (r.fault (fullPath directory normal))

/-- Replace the handlers by those that settings ask for. The one for the console comes first and stays
    even when the log file cannot be opened. -/
def configure (o : Outlets) (logLevel logFile : Datum) : Except Fault Unit × Outlets :=
  let o := o.detachAll
  match rankOf logLevel with
  | .error f => (.error f, o)
  | .ok rank =>
    let o := { o with level := rank }.attachNew (some (.console rank))
    if !logFile.truthy then (.ok (), o)
    else match pathOf logFile with
      | .error f => (.error f, o)
      | .ok path =>
        match (openLog o.directory path rank).run o.files with
        | (.ok outlet, files) => (.ok (), { o with files }.attachNew (some outlet))
        | (.error f, files) => (.error f, { o with files })

end Outlets

end CertMint.Log
