import CertMint.Settings.Basic
import CertMint.Files.Tree
import CertMint.Text.LetterCase

/-! # Reviews

A review of settings is a list of issues, divided into errors and warnings, with a summary in words.
-/

namespace CertMint

/-- Something that a review found. -/
structure Issue where
  field : String
  message : String
  /-- How grave it is: `error`, `warning` or another word. -/
  severity : String := "error"
  deriving DecidableEq, Repr

namespace Issue

def line (i : Issue) : String :=
  Text.upper i.severity ++ ": " ++ i.field ++ " - " ++ i.message

end Issue

/-- The outcome of a review. -/
structure Review where
  accepted : Datum
  errors : List Issue
  warnings : List Issue

namespace Review

/-- Divide the issues of two lists into errors and warnings; issues of any other severity are left
    out. -/
def of (accepted : Datum) (first second : List Issue) : Review :=
  let all := first ++ second
  ⟨accepted, all.filter (·.severity == "error"), all.filter (·.severity == "warning")⟩

def hasErrors (r : Review) : Bool := !r.errors.isEmpty

def hasWarnings (r : Review) : Bool := !r.warnings.isEmpty

/-- A heading and an entry for each issue, unless there are none. -/
def block (heading : String) (issues : List Issue) : List String :=
  if issues.isEmpty then [] else heading :: issues.map fun i => "  - " ++ i.line

def summary (r : Review) : String :=
  let lines := block "Configuration Errors:" r.errors ++ block "Configuration Warnings:" r.warnings
  if lines.isEmpty then "Configuration is valid" else "\n".intercalate lines

end Review

namespace Settings

/-- The key size above which a review warns. -/
def slowKeySize : Int := 2048

/-- The path text in a log file field: a text, or the text that octets encode. -/
def logPath? : Datum → Option String
  | .text s => some s
  | .octets bs => Text.ofUtf8? bs
  | _ => none

/-- A warning about a log file whose directory does not exist. -/
def logFileIssues (t : Files.Tree) (logFile : Datum) : Except Fault (List Issue) :=
  if !logFile.truthy then .ok []
  else
    match logPath? logFile with
    | none => .error (.of .type
        ("expected str, bytes or os.PathLike object, not " ++ logFile.bareKindName))
    | some path =>
      let holder := Files.directory path
      if holder.isEmpty || t.exists_ holder then .ok []
      else
        let shown := match logFile with
          | .octets _ => Text.quotedOctets (Text.utf8 holder)
          | _ => holder
        .ok [⟨"log_file_path", "Log directory does not exist: " ++ shown, "warning"⟩]

def review (t : Files.Tree) (s : Settings) : Except Fault Review := do
  let slow := if isAbove slowKeySize s.keySize then
      [⟨"key_size", "Key sizes above 2048 bits slow down fixture generation considerably",
        "warning"⟩]
    else []
  let atOnce := if Datum.same s.validNotBefore (.int 0) then
      [⟨"valid_not_before_days", "Valid certificates will start at the moment of generation",
        "warning"⟩]
    else []
  let logFile ← logFileIssues t s.logFile
  return Review.of (.bool true) (slow ++ atOnce ++ logFile) []

end Settings

end CertMint
