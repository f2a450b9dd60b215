import CertMint.CommandLine.Switch
import CertMint.Text.Blank
import CertMint.Text.Quoted

/-! # The words of a command line

Each word is taken for a switch, possibly with a value attached to it, for a plain word, or for a
switch that is not known. A long spelling can be shortened as far as it stays the only one; a value
is attached to a long spelling after `=`, and to a short one directly or after `=`. After the mark
`--` all words are plain.
-/

namespace CertMint.CommandLine

/-- Why a command line is turned down. -/
inductive Misuse where
  /-- A word that several spellings begin with. -/
  | ambiguous (word : String) (spellings : List String)
  | missingValue (s : Switch)
  /-- A value attached to a switch that takes none. -/
  | strayValue (s : Switch) (value : String)
  | notAChoice (s : Switch) (value : String)
  /-- A switch that has to be there and is not. -/
  | missing (s : Switch)
  | strayWords (words : List String)
  deriving DecidableEq, Repr

namespace Misuse

def about (s : Switch) (text : String) : String := "argument " ++ s.label ++ ": " ++ text

def message : Misuse → String
  | .ambiguous word spellings =>
    "ambiguous option: " ++ word ++ " could match " ++ ", ".intercalate spellings
  | .missingValue s => about s "expected one argument"
  | .strayValue s value => about s ("ignored explicit argument " ++ Text.quoted value)
  | .notAChoice s value =>
    about s ("invalid choice: " ++ Text.quoted value ++ " (choose from "
      ++ ", ".intercalate (s.choices.map Text.quoted) ++ ")")
  | .missing s => "the following arguments are required: " ++ s.label
  | .strayWords words => "unrecognized arguments: " ++ " ".intercalate words

def report (m : Misuse) : String :=
  usage ++ program ++ ": error: " ++ m.message ++ "\n"

end Misuse

/-- What a word is taken for. -/
inductive Word where
  | plain (text : String)
  /-- The mark after which all words are plain. -/
  | mark
  /-- A switch, whether it is spelled in the long way, and the value attached to it. -/
  | switch (s : Switch) (long : Bool) (attached : Option String)
  | unknown (text : String)
  deriving DecidableEq, Repr

namespace Word

def markText : String := "--"

def isLong (spelling : String) : Bool := spelling.startsWith markText

def cut (text : String) : String × Option String :=
  let (head, rest) := text.toList.span (· ≠ '=')
  (String.ofList head, rest.tail?.map String.ofList)

/-- Whether characters are decimal digits, possibly with a point and at least one digit after it. A
    line break may follow. -/
def isNumber (cs : List Char) : Bool :=
  let isDigit c := (Text.digitValue? c).isSome
  let cs := if cs.getLast? = some '\n' then cs.dropLast else cs
  match cs.span isDigit with
  | (whole, []) => !whole.isEmpty
  | (_, '.' :: places) => !places.isEmpty && places.all isDigit
  | _ => false

/-- The spellings that a word may be meant for, with what it is taken for then. -/
def candidates (text : String) : List (String × Word) :=
  if isLong text then
    let (head, attached) := cut text
    Switch.table.filterMap fun (spelling, s) =>
      if spelling.startsWith head then some (spelling, .switch s true attached) else none
  else
    let (letter, rest) := text.toList.splitAt 2
    Switch.table.filterMap fun (spelling, s) =>
      if spelling.toList = letter then some (spelling, .switch s false (some (String.ofList rest)))
      else none

/-- A word that begins with `-`, has more characters and is no spelling. A negative number and a word
    with a space in it are plain. -/
def ofDashed (text : String) : Except Misuse Word :=
  match candidates text with
  | [] =>
    if isNumber (text.toList.drop 1) || text.toList.contains ' ' then .ok (.plain text)
    else .ok (.unknown text)
  | [(_, w)] => .ok w
  | found => .error (.ambiguous text (found.map (·.1)))

/-- What a word before the mark is taken for. -/
def of (text : String) : Except Misuse Word :=
  match text.toList with
  | '-' :: _ :: _ =>
    match Switch.ofSpelling? text with
    | some s => .ok (.switch s (isLong text) none)
    | none =>
      let (head, attached) := cut text
      match Switch.ofSpelling? head, attached with
      | some s, some value => .ok (.switch s (isLong text) (some value))
      | _, _ => ofDashed text
  | _ => .ok (.plain text)

/-- What the words of a command line are taken for. -/
def ofTexts : List String → Except Misuse (List Word)
  | [] => .ok []
  | text :: rest =>
    if text = markText then .ok (.mark :: rest.map .plain)
    else do return (← of text) :: (← ofTexts rest)

end Word

end CertMint.CommandLine
