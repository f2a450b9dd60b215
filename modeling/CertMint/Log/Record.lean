import CertMint.Log.Clock
import CertMint.Log.Note
import CertMint.Log.Template
import CertMint.Files.Path
import CertMint.Json.Printer

/-! # Log records

A record of something logged, and its two written forms: a line of JSON for files, and a line of text
for the console, after which the report of a fault may follow. What they look like also depends on the
host on which they are written.
-/

namespace CertMint.Log

/-- Where records are written. -/
structure Host where
  zone : Zone
  /-- How many lists, tuples and records, one in another, there is room to copy. -/
  room : Nat

/-- A host with universal time and an ordinary amount of room. -/
def Host.universal : Host := ⟨fun _ => 0, 480⟩

/-- A record. -/
structure Record where
  logger : String
  level : Int
  path : String
  line : Integer.Short
  template : Datum
  arguments : List Datum
  /-- When it was made, in seconds since 1970. -/
  created : Binary64
  function : Option String
  thread : Option Integer.Short
  process : Option Integer.Short
  extra : Datum
  /-- The fault that is reported with it; it may be asked for and be missing. -/
  fault : Option (Option Fault)
  /-- Whether that fault stopped anything. -/
  thrown : Bool

def levelNames : List (Int × String) :=
  [(0, "NOTSET"), (10, "DEBUG"), (20, "INFO"), (30, "WARNING"), (40, "ERROR"), (50, "CRITICAL")]

def levelName (rank : Int) : String :=
  match levelNames.find? (·.1 == rank) with
  | some (_, name) => name
  | none => "Level " ++ toString rank

namespace Record

/-- The record of a note. The fault of a note is one that was handled, and so had stopped something. -/
def ofNote (created : Binary64) (n : Note) : Record where
  logger := n.logger
  level := n.level.rank
  path := ""
  line := .ofWord 0
  template := .text n.message
  arguments := []
  created := created
  function := .none
  thread := some (.ofWord 0)
  process := some (.ofWord 0)
  extra := n.extra.getD .none
  fault := n.fault.map some
  thrown := true

/-- The message. A template without arguments is the message as it stands, and a single record that
    is not empty gives the arguments by name. -/
def message (r : Record) : Except Fault String := do
  let template ← r.template.plain
  match r.arguments with
  | [] => return template
  | [.record (e :: es)] => Template.fill template (.entries (e :: es))
  | ds => Template.fill template (.items ds)

/-- What is said where a report is asked for and there is no fault. -/
def noFault : List String := ["NoneType: None\n"]

def report (thrown : Bool) : Option Fault → List String
  | some f => f.report thrown
  | none => noFault

def faultDatum (thrown : Bool) : Option Fault → Datum
  | some f => .named [("type", .text f.kind.label), ("message", .text f.message),
      ("traceback", .list ((f.report thrown).map .text))]
  | none => .named [("type", .none), ("message", .none), ("traceback", .list (noFault.map .text))]

/-- What is told of a record, with the moment that it carries and its message. -/
def entries (r : Record) (stamp : Moment) (message : String) : List (String × Datum) :=
  [("timestamp", .text stamp.iso), ("level", .text (levelName r.level)),
    ("logger_name", .text r.logger), ("message", .text message),
    ("module", .text (Files.stem (Files.lastName r.path))), ("function", .ofText? r.function),
    ("line_number", .int r.line.val), ("thread_id", .ofInt? (r.thread.map (·.val))),
    ("process_id", .ofInt? (r.process.map (·.val))), ("extra_data", r.extra),
    ("exception_info", (r.fault.map (faultDatum r.thrown)).getD .none)]

/-- The fault of data that are nested too deep to be copied. -/
def tooDeep : Fault := .of .recursion "maximum recursion depth exceeded"

def datum (host : Host) (r : Record) : Except Fault Datum := do
  let stamp ← momentOfSeconds host.zone r.created
  let message ← r.message
  let told := Datum.named (r.entries stamp message)
  if host.room < told.depth then throw tooDeep
  return told

def jsonLine (host : Host) (r : Record) : Except Fault String := do Json.line (← r.datum host)

/-- A text and, on lines of its own after it, the report of the fault. -/
def withReport (r : Record) (s : String) : String :=
  match r.fault with
  | none => s
  | some f =>
    let reported := String.join (report r.thrown f)
    let reported := if reported.endsWith "\n" then (reported.dropEnd 1).toString else reported
    if s.endsWith "\n" then s ++ reported else s ++ "\n" ++ reported

def bareLine (r : Record) : Except Fault String := do
  return r.withReport (← r.message)

def consoleLine (zone : Zone) (r : Record) : Except Fault String := do
  let message ← r.message
  let time ← consoleTime zone r.created
  return r.withReport
    (time ++ " - " ++ r.logger ++ " - " ++ levelName r.level ++ " - " ++ message)

end Record

end CertMint.Log
