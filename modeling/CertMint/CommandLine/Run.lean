import CertMint.CommandLine.Request
import CertMint.Log.Outlets
import CertMint.Mint.Rendering
import CertMint.Settings.File

/-! # Runs of the program

A run loads settings, sets up logging, makes a fixture and writes it, in this order. A stage that
fails ends the run, and nothing is written to the output then.
-/

namespace CertMint.CommandLine

open Mint

/-- How a run ends. -/
inductive Ending where
  | status (code : Nat)
  /-- With a status while the command line was read. -/
  | reading (code : Nat)
  /-- With a fault that nothing handles. -/
  | fault (f : Fault)

/-- What a run leaves behind. -/
structure Run where
  ending : Ending
  output : String
  outlets : Log.Outlets
  workshop : Workshop

def logger : String := program ++ ".main"

/-- The fault of a request with no kind of fixture. -/
def noScenario : Fault := .of .type "unhashable type: 'list'"

/-- Make the fixture that a request names, with a facade that measures. -/
def mint (s : Settings) (scenario : Option Scenario) : Work Fixture := do
  let facade ← Facade.wire s true
  match scenario with
  | some kind => facade.generate kind
  | none => Work.fail noScenario

/-- Whether a fault while settings are loaded is reported in place of ending the run. -/
def isSettingsFault (k : Fault.Kind) : Bool := k.isFileNotFound || k.isValue

/-- The seconds at which records of a run are stamped. -/
def stampSeconds (w : Workshop) : Binary64 := Log.secondsOfMoment w.stamp

/-- A run that ends with nothing on its output. -/
def failed (ending : Ending) (o : Log.Outlets) (w : Workshop) : Run := ⟨ending, "", o, w⟩

def failureNote (scenario : Option Scenario) (f : Fault) : Log.Note where
  level := .error
  logger := logger
  message := "Failed to generate scenario " ++ (scenario.map Scenario.name).getD ""
    ++ ": " ++ f.message
  fault := some f

def produce (r : Request) (s : Settings) (o : Log.Outlets) (w : Workshop) : Run :=
  match (mint s r.scenario).perform w with
  | (.error f, w) =>
    let o := o.handleNotes (stampSeconds w) w.notes
    if f.kind.isOperationFailed then
      failed (.status 1) (o.handleNotes (stampSeconds w) [failureNote r.scenario f]) w
    else failed (.fault f) o w
  | (.ok fixture, w) =>
    match (render fixture r.describe).perform w with
    | (.error f, w) => failed (.fault f) (o.handleNotes (stampSeconds w) w.notes) w
    | (.ok text, w) => ⟨.status 0, text, o.handleNotes (stampSeconds w) w.notes, w⟩

/-- Set up logging as settings ask for, and go on. -/
def runWith (r : Request) (s : Settings) (o : Log.Outlets) (w : Workshop) : Run :=
  match o.configure s.logLevel s.logFile with
  | (.error f, o) =>
    if f.kind.isSystem then
      failed (.status 1) (o.toConsole ("Logging setup error: " ++ f.message)) w
    else failed (.fault f) o w
  | (.ok (), o) => produce r s o w

/-- Do what a request asks for. Warnings about settings come before logging is set up. -/
def perform (r : Request) (o : Log.Outlets) (w : Workshop) : Run :=
  let (loaded, notes) := Settings.loadWith o.files r.config r.level
  let o := o.handleNotes (stampSeconds w) notes
  match loaded with
  | .error f =>
    if isSettingsFault f.kind then
      failed (.status 1) (o.toConsole ("Configuration error: " ++ f.message)) w
    else failed (.fault f) o w
  | .ok s => runWith r s o w

def run (texts : List String) (o : Log.Outlets) (w : Workshop) : Run :=
  match Request.ofTexts texts with
  | .ok r => perform r o w
  | .error .help => ⟨.reading 0, helpText, o, w⟩
  | .error (.misuse m) =>
    failed (.reading 2) { o with console := m.report :: o.console } w

end CertMint.CommandLine
