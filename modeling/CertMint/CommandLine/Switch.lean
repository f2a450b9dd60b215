import CertMint.Mint.Fixtures

/-! # The switches of the command line

What can be asked for on the command line: how each switch is spelled, whether a value goes with it,
and which values it takes; and the two texts that tell a user about it.
-/

namespace CertMint.CommandLine

open Mint

def program : String := "certfixtures"

/-- The switches. -/
inductive Switch where
  | help
  | scenario
  | config
  /-- Describe certificates in place of writing them in PEM. -/
  | describe
  /-- The log level, in place of that of the settings. -/
  | logLevel
  deriving DecidableEq, Repr

namespace Switch

/-- The switches in the order in which the help text has them. -/
def all : List Switch := [.help, .scenario, .config, .describe, .logLevel]

def spellings : Switch → List String
  | .help => ["-h", "--help"]
  | .scenario => ["--scenario", "-s"]
  | .config => ["--config", "-c"]
  | .describe => ["--describe"]
  | .logLevel => ["--log-level"]

def table : List (String × Switch) := all.flatMap fun s => s.spellings.map (·, s)

def ofSpelling? (spelling : String) : Option Switch := table.lookup spelling

def label (s : Switch) : String := "/".intercalate s.spellings

def takesValue : Switch → Bool
  | .help | .describe => false
  | .scenario | .config | .logLevel => true

/-- The values that a switch takes, where these are limited. -/
def choices : Switch → List String
  | .scenario => Scenario.all.map Scenario.name
  | .logLevel => Settings.logLevels
  | .help | .config | .describe => []

def braced (s : Switch) : String := "\x7b" ++ ",".intercalate s.choices ++ "\x7d"

end Switch

def marginLine (margin : Nat) (text : String) : String :=
  String.ofList (List.replicate margin ' ') ++ text ++ "\n"

/-- The short text on how the program is used. -/
def usage : String :=
  "usage: " ++ program ++ " [-h] --scenario\n"
  ++ marginLine 20 (Switch.scenario.braced)
  ++ marginLine 20 "[--config CONFIG] [--describe]"
  ++ marginLine 20 ("[--log-level " ++ Switch.logLevel.braced ++ "]")

/-- The text on how the program is used and what each switch does. -/
def helpText : String :=
  usage ++ "\nGenerate X.509 certificate fixtures\n\noptions:\n"
  ++ "  -h, --help            show this help message and exit\n"
  ++ "  --scenario " ++ Switch.scenario.braced ++ ", -s " ++ Switch.scenario.braced ++ "\n"
  ++ marginLine 24 "Certificate scenario to generate"
  ++ "  --config CONFIG, -c CONFIG\n"
  ++ marginLine 24 "Configuration file path"
  ++ "  --describe            Print a summary of each certificate instead of PEM\n"
  ++ "  --log-level " ++ Switch.logLevel.braced ++ "\n"
  ++ marginLine 24 "Override the configured log level"

end CertMint.CommandLine
