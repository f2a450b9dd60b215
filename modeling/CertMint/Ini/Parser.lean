import CertMint.Ini.Document
import CertMint.Ini.Source
import CertMint.Text.Blank
import CertMint.Text.LetterCase
import CertMint.Text.Quoted

/-! # Reading settings documents

A line is a section header, an option with its value, a comment, a blank, or the continuation of a
value when it is indented deeper than the line that began the option. Lines of no such form are
collected and refused together at the end; a section or an option that comes twice, and an option
before any section, are refused at once.
-/

namespace CertMint.Ini

/-- Why a document is refused. -/
inductive Refusal where
  | sectionTwice (name : String) (line : Nat)
  | optionTwice (name option : String) (line : Nat)
  | noHeader (line : Nat) (content : String)
  | malformed (lines : List (Nat × String))
  | encoding (flaw : Text.Utf8Error)
  deriving Repr, DecidableEq

namespace Refusal

/-- A line number in at least two places. -/
def lineNumber (n : Nat) : String := if n < 10 then " " ++ toString n else toString n

def message (file : String) : Refusal → String
  | .sectionTwice name line => "While reading from " ++ Text.quoted file ++ " [line "
      ++ lineNumber line ++ "]: section " ++ Text.quoted name ++ " already exists"
  | .optionTwice name option line => "While reading from " ++ Text.quoted file ++ " [line "
      ++ lineNumber line ++ "]: option " ++ Text.quoted option ++ " in section "
      ++ Text.quoted name ++ " already exists"
  | .noHeader line content => "File contains no section headers.\nfile: " ++ Text.quoted file
      ++ ", line: " ++ toString line ++ "\n" ++ Text.quoted content
  | .malformed lines => "Source contains parsing errors: " ++ Text.quoted file
      ++ String.join (lines.map fun (line, content) =>
          "\n\t[line " ++ lineNumber line ++ "]: " ++ Text.quoted content)
  | .encoding flaw => flaw.message

end Refusal

/-- A value while it is read: its lines, newest first. -/
abbrev Draft : Type := List (String × List String)

/-- What has been read so far. -/
structure Scan where
  defaults : Draft := []
  sections : List (String × Draft) := []
  current : Option String := none
  /-- The option whose value may go on; empty when there is none. -/
  option : String := ""
  /-- How deep the line that began the option is indented. -/
  indent : Nat := 0
  seen : List (String × String) := []
  /-- Lines of no form, newest first. -/
  wrong : List (Nat × String) := []

namespace Scan

/-- Change the options of the section being read. -/
def changeCurrent (s : Scan) (f : Draft → Draft) : Scan :=
  match s.current with
  | none => s
  | some name =>
    if name = defaultSection then { s with defaults := f s.defaults }
    else { s with sections := Keyed.modify name f s.sections }

/-- Add a line to the value being read. -/
def addLine (s : Scan) (line : String) : Scan :=
  s.changeCurrent (Keyed.modify s.option (line :: ·))

def addWrong (s : Scan) (number : Nat) (line : String) : Scan :=
  { s with wrong := (number, line) :: s.wrong }

end Scan

def isComment (trimmed : String) : Bool :=
  match trimmed.toList with
  | '#' :: _ | ';' :: _ => true
  | _ => false

/-- The name in a section header: what stands between the first bracket and the last closing one. -/
def header? (trimmed : String) : Option String :=
  match trimmed.toList with
  | '[' :: rest =>
    let name := ((rest.reverse.dropWhile (· ≠ ']')).drop 1).reverse
    if name.isEmpty then none else some (String.ofList name)
  | _ => none

/-- Whether a character stands between an option and its value. -/
def isDelimiter (c : Char) : Bool := c = '=' || c = ':'

/-- The option and the value of a line. -/
def option? (trimmed : String) : Option (String × String) :=
  let cs := trimmed.toList
  match cs.dropWhile (!isDelimiter ·) with
  | [] => none
  | _ :: value =>
    let name := cs.takeWhile (!isDelimiter ·)
    some (Text.lower (Text.trim (String.ofList name)), Text.trim (String.ofList value))

def Scan.beginSection (s : Scan) (number : Nat) (name : String) : Except Refusal Scan :=
  if Keyed.has name s.sections then .error (.sectionTwice name number)
  else if name = defaultSection then .ok { s with current := some name, option := "" }
  else .ok { s with
    current := some name
    option := ""
    sections := s.sections ++ [(name, [])] }

/-- Begin an option in the section with the given name. -/
def Scan.beginOption (s : Scan) (number : Nat) (line inSection name value : String) :
    Except Refusal Scan :=
  let s := if name.isEmpty then s.addWrong number line else s
  if s.seen.contains (inSection, name) then .error (.optionTwice inSection name number)
  else .ok { s.changeCurrent (Keyed.put name [value]) with
    option := name
    seen := (inSection, name) :: s.seen }

def Scan.readFresh (s : Scan) (number : Nat) (line trimmed : String) : Except Refusal Scan :=
  match header? trimmed, s.current with
  | some name, _ => s.beginSection number name
  | none, none => .error (.noHeader number line)
  | none, some inSection =>
    match option? trimmed with
    | some (name, value) => s.beginOption number line inSection name value
    | none => .ok (s.addWrong number line)

def Scan.readLine (s : Scan) (number : Nat) (line : String) : Except Refusal Scan :=
  let trimmed := Text.trim line
  let openValue := s.current.isSome && !s.option.isEmpty
  if isComment trimmed then .ok s
  else if trimmed.isEmpty then .ok (if openValue then s.addLine "" else s)
  else
    let depth := (line.toList.takeWhile Text.isBlank).length
    if openValue && s.indent < depth then .ok (s.addLine trimmed)
    else { s with indent := depth }.readFresh number line trimmed

/-- Read lines in order; the first of them has the given number. -/
def Scan.readLines (s : Scan) (number : Nat) : List String → Except Refusal Scan
  | [] => .ok s
  | line :: rest => match s.readLine number line with
    | .error r => .error r
    | .ok s => s.readLines (number + 1) rest

/-- A value from its lines, newest first. Blanks at its end do not belong to it. -/
def joinValue (lines : List String) : String :=
  let cs := ("\n".intercalate lines.reverse).toList
  String.ofList (cs.reverse.dropWhile Text.isBlank).reverse

def finish (draft : Draft) : Options := draft.map fun (name, lines) => (name, joinValue lines)

def Document.ofSource (source : Source) : Except Refusal Document :=
  match Scan.readLines {} 1 source.lines with
  | .error r => .error r
  | .ok s =>
    match source.flaw with
    | some flaw => .error (.encoding flaw)
    | none =>
      if s.wrong.isEmpty then
        .ok ⟨finish s.defaults, s.sections.map fun (name, draft) => (name, finish draft)⟩
      else .error (.malformed s.wrong.reverse)

end CertMint.Ini
