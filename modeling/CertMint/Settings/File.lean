import CertMint.Settings.Review
import CertMint.Ini.Parser
import CertMint.Ini.Reference
import CertMint.Files.Folders
import CertMint.Log.Note

/-! # Settings files

Loading settings from a file, and writing a file with the default settings. Every option of a section
is read under the section's name, a dot and its own name; the defaults are read under their own names
where nothing else has that name. Nine fields have two such names each, and names of no field are
ignored.
-/

namespace CertMint.Settings

/-- The name under which notes on settings files are logged. -/
def logger : String := "certfixtures.services.config_service"

/-- The names in a file and the fields that they set. -/
def fileNames : List (String × Field) :=
  [("keys.size", .keySize), ("key_size", .keySize),
   ("keys.public_exponent", .publicExponent), ("public_exponent", .publicExponent),
   ("signature.hash", .signatureHash), ("signature_hash", .signatureHash),
   ("validity.valid_not_before_days", .validNotBefore), ("valid_not_before_days", .validNotBefore),
   ("validity.valid_not_after_days", .validNotAfter), ("valid_not_after_days", .validNotAfter),
   ("validity.expired_not_before_days", .expiredNotBefore),
   ("expired_not_before_days", .expiredNotBefore),
   ("validity.expired_not_after_days", .expiredNotAfter),
   ("expired_not_after_days", .expiredNotAfter),
   ("app.log_level", .logLevel), ("log_level", .logLevel),
   ("app.log_file_path", .logFile), ("log_file_path", .logFile)]

/-- The fault of a reference in the value `raw` of an option. -/
def referenceFault (inSection option raw : String) (e : Ini.ReferenceError) : Fault :=
  let kind : Fault.Kind := match e with
    | .malformed _ | .stray _ => .interpolationSyntax
    | .missing _ => .interpolationMissing
    | .tooDeep => .interpolationDepth
  .of kind (e.message option inSection raw)

/-- The options of a section with their references replaced. -/
def readOptions (inSection : String) (options : Ini.Options) :
    List (String × String) → Except Fault (List (String × String))
  | [] => .ok []
  | (name, raw) :: rest =>
    match Ini.expand options raw with
    | .error e => .error (referenceFault inSection name raw e)
    | .ok value => (readOptions inSection options rest).map ((inSection ++ "." ++ name, value) :: ·)

/-- The options of sections, each under its section's name and its own. -/
def readSections (doc : Ini.Document) :
    List (String × Ini.Options) → List (String × String) → Except Fault (List (String × String))
  | [], done => .ok done
  | (name, own) :: rest, done =>
    match readOptions name (doc.optionsOf own) (doc.optionsOf own) with
    | .error f => .error f
    | .ok entries => readSections doc rest (Keyed.putAll entries done)

def readDocument (doc : Ini.Document) : Except Fault (List (String × String)) := do
  let entries ← readSections doc doc.sections []
  return entries ++ doc.defaults.filter fun entry => !Keyed.has entry.1 entries

/-- How much of a text a message about an integer shows. -/
def shownLength : Nat := 200

/-- The words for a text that is no integer. -/
def integerMessage (raw : String) : Integer.ReadError → String
  | .malformed => "invalid literal for int() with base 10: "
      ++ String.ofList ((Text.quoted raw).toList.take shownLength)
  | .tooLong count => "Exceeds the limit (4300 digits) for integer string conversion: value has "
      ++ toString count ++ " digits; use sys.set_int_max_str_digits() to increase the limit"

/-- The datum that a field takes from the text of a file. -/
def convert (field : Field) (raw : String) : Except Integer.ReadError Datum :=
  match field with
  | .signatureHash | .logLevel => .ok (.text (Text.upper (Text.trim raw)))
  | .logFile =>
    let path := Text.trim raw
    .ok (if path.isEmpty then .none else .text path)
  | _ => (Integer.read raw).map .int

/-- Set the fields that names in a file stand for, in order. -/
def assign (s : Settings) : List (String × String) → Except Fault Settings
  | [] => .ok s
  | (name, raw) :: rest =>
    match Keyed.get? name fileNames with
    | none => assign s rest
    | some field =>
      match convert field raw with
      | .ok d => assign (s.set field d) rest
      | .error e => .error (.of .value
          ("Invalid value for " ++ name ++ ": " ++ raw ++ " (" ++ integerMessage raw e ++ ")"))

/-- The fault of a document that cannot be read. -/
def refusalFault (path : String) : Ini.Refusal → Fault
  | .encoding flaw => .of .unicodeDecode flaw.message
  | r => .of .value ("Failed to parse configuration file: " ++ r.message path)

/-- The document in a file. What exists and cannot be read as a file has no options. -/
def documentAt (t : Files.Tree) (path : String) : Except Fault Ini.Document :=
  match t.read path with
  | .error _ => .ok .empty
  | .ok content =>
    match Ini.Document.ofSource (Ini.Source.ofOctets content.toList) with
    | .ok doc => .ok doc
    | .error r => .error (refusalFault path r)

/-- The settings that the file at a path gives. -/
def readFile (t : Files.Tree) (path : String) : Except Fault Settings :=
  if !t.exists_ path then
    .error (.of .fileNotFound ("Configuration file not found: " ++ path))
  else do
    let doc ← documentAt t path
    let entries ← readDocument doc
    (← assign {} entries).check

/-- The settings that the file at a path gives, with a note when a review of them has warnings. -/
def load (t : Files.Tree) (path : String) : Except Fault (Settings × List Log.Note) := do
  let s ← readFile t path
  let r ← s.review t
  if r.hasErrors then
    throw (.of .value ("Configuration validation failed:\n" ++ r.summary))
  return (s, if r.hasWarnings then
      [Log.Note.of .warning logger ("Configuration warnings:\n" ++ r.summary)]
    else [])

/-- The settings of a file, or the defaults where no path is given, with the log level replaced where
    one is given. The notes are made even when the replaced level is refused. -/
def loadWith (t : Files.Tree) (path level : Option String) :
    Except Fault Settings × List Log.Note :=
  let loaded := match path.filter (!·.isEmpty) with
    | some path => load t path
    | none => .ok ({}, [])
  match loaded with
  | .error f => (.error f, [])
  | .ok (s, notes) =>
    match level.filter (!·.isEmpty) with
    | some level => (({ s with logLevel := .text (Text.upper level) } : Settings).check, notes)
    | none => (.ok s, notes)

/-- The content of a file with the default settings. -/
def defaultFile : String :=
  "# Certificate Fixture Generator Configuration File\n\n"
  ++ "[keys]\nsize = 1024\npublic_exponent = 65537\n\n"
  ++ "[signature]\nhash = SHA256\n\n"
  ++ "[validity]\nvalid_not_before_days = 30\nvalid_not_after_days = 99\n"
  ++ "expired_not_before_days = 40\nexpired_not_after_days = 10\n\n"
  ++ "[app]\nlog_level = INFO\nlog_file_path =\n"

/-- Write a file with the default settings, and the directory for it where that is missing. -/
def writeDefault (path : String) : Files.Change Log.Note := do
  let holder := Files.directory path
  if !holder.isEmpty then Files.Change.makeFolders holder
  Files.Change.tryWith path (·.write path defaultFile.toUTF8)
  return Log.Note.of .info logger ("Created default configuration file: " ++ path)

end CertMint.Settings
