import CertMint.CommandLine.Word

/-! # What a command line asks for

The words of a command line are read from the first to the last. Reading ends where help is asked for
and where something is wrong; otherwise the words together make a request. Of a switch that is given
twice the last value counts.
-/

namespace CertMint.CommandLine

open Mint

/-- What the program is asked to do. -/
structure Request where
  /-- The kind of fixture, if the value is one: the mark `--` attached to the switch is no value. -/
  scenario : Option Scenario
  config : Option String
  /-- Whether certificates are described in place of written in PEM. -/
  describe : Bool
  /-- The log level in place of that of the settings. -/
  level : Option String
  deriving DecidableEq, Repr

/-- Why there is no request. -/
inductive Stop where
  | help
  | misuse (m : Misuse)
  deriving DecidableEq, Repr

/-- What was read so far. -/
structure Gathered where
  /-- The kind of fixture, once its switch was there. -/
  scenario : Option (Option Scenario) := none
  config : Option String := none
  describe : Bool := false
  level : Option String := none
  strays : List String := []
  /-- A switch that waits for its value, and whether help is to be shown once it has one. -/
  waiting : Option (Switch × Bool) := none
  deriving DecidableEq, Repr

namespace Gathered

/-- Add a word that belongs to no switch. -/
def stray (p : Gathered) (text : String) : Gathered := { p with strays := p.strays ++ [text] }

def take (p : Gathered) (s : Switch) (value : String) : Except Misuse Gathered :=
  match s with
  | .help | .describe => .ok p
  | .config => .ok { p with config := some value }
  | .scenario =>
    match Scenario.all.find? (·.name == value) with
    | some kind => .ok { p with scenario := some (some kind) }
    | none => .error (.notAChoice s value)
  | .logLevel =>
    if Settings.logLevels.contains value then .ok { p with level := some value }
    else .error (.notAChoice s value)

/-- Take the absence of a value for a switch. -/
def takeNothing (p : Gathered) : Switch → Gathered
  | .help | .describe => p
  | .config => { p with config := none }
  | .scenario => { p with scenario := some none }
  | .logLevel => { p with level := none }

def takeAttached (p : Gathered) (s : Switch) (value : String) : Except Misuse Gathered :=
  if value = Word.markText then .ok (p.takeNothing s) else p.take s value

end Gathered

/-- The switch that waits for a value after letters which follow `-h` in one word. Each letter is a
    short spelling of its own; what follows one that takes a value is its value. -/
def afterHelp : List Char → Except Misuse (Option Switch)
  | [] => .ok none
  | c :: rest =>
    match Switch.ofSpelling? (String.ofList ['-', c]) with
    | none => .error (.strayValue .help (String.ofList (c :: rest)))
    | some s =>
      if !s.takesValue then afterHelp rest
      else .ok (if rest.isEmpty then some s else none)

/-- Read a switch with what is attached to it. -/
def readSwitch (p : Gathered) (s : Switch) (long : Bool) :
    Option String → Except Stop Gathered
  | none =>
    if s.takesValue then .ok { p with waiting := some (s, false) }
    else if s = .help then .error .help
    else .ok { p with describe := true }
  | some value =>
    if s.takesValue then (p.takeAttached s value).mapError .misuse
    else if long ∨ value.isEmpty then .error (.misuse (.strayValue s value))
    else match afterHelp value.toList with
      | .error m => .error (.misuse m)
      | .ok none => .error .help
      | .ok (some s) => .ok { p with waiting := some (s, true) }

def readWord (p : Gathered) (w : Word) : Except Stop Gathered :=
  match p.waiting, w with
  | some (_, true), .plain _ => .error .help
  | some (s, false), .plain text => ({ p with waiting := none }.take s text).mapError .misuse
  | some (s, _), _ => .error (.misuse (.missingValue s))
  | none, .plain text | none, .unknown text => .ok (p.stray text)
  | none, .mark => .ok (p.stray Word.markText)
  | none, .switch s long attached => readSwitch p s long attached

def Gathered.finish (p : Gathered) : Except Stop Request :=
  match p.waiting, p.scenario with
  | some (s, _), _ => .error (.misuse (.missingValue s))
  | none, none => .error (.misuse (.missing .scenario))
  | none, some scenario =>
    if p.strays.isEmpty then .ok ⟨scenario, p.config, p.describe, p.level⟩
    else .error (.misuse (.strayWords p.strays))

def Request.ofTexts (texts : List String) : Except Stop Request := do
  let words ← (Word.ofTexts texts).mapError .misuse
  (← words.foldlM readWord {}).finish

end CertMint.CommandLine
