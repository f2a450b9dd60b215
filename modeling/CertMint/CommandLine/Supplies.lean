import CertMint.CommandLine.Run
import CertMint.Json.Reader
import CertMint.Text.Hex

/-! # Supplies of a run

What a run draws on, written as one line of JSON: key pairs, serial numbers, the moment that the clock
shows, and files. Whatever is left out is empty, and the clock then shows the start of 1970.
-/

namespace CertMint.CommandLine

open Mint

/-- What a run draws on. -/
structure Supplies where
  /-- The key pairs, in the order in which they are used up. -/
  keys : List Rsa.KeyPair := []
  /-- The serial numbers, in the order in which they are used up. -/
  serials : List Datum := []
  now : Moment := ⟨Log.epochDay * day, some 0⟩
  files : Files.Tree := .empty

namespace Supplies

/-- The entry of a record under a name. -/
def entry (d : Datum) (name : String) : Datum :=
  match d with
  | .record entries => ((entries.find? fun e => e.1.same (.text name)).map (·.2)).getD .none
  | _ => .none

def items : Datum → List Datum
  | .list ds => ds
  | _ => []

def number? : Datum → Option Nat
  | .text s => Text.hexNumber? s.toList
  | _ => none

/-- A key pair: modulus, public and private exponent, all in hexadecimal. -/
def key? (d : Datum) : Option Rsa.KeyPair := do
  return ⟨← number? (entry d "n"), ← number? (entry d "e"), ← number? (entry d "d")⟩

/-- Put a text file at a path, and make the directory for it. A path that cannot be written is left
    out. -/
def addFile (t : Files.Tree) (path content : String) : Files.Tree :=
  let t := ((Files.Change.makeHolder path).run t).2
  match t.write path content.toUTF8 with
  | .ok t => t
  | .error _ => t

/-- The files of a record of paths and texts. -/
def filesOf : Datum → Files.Tree
  | .record entries => entries.foldl (fun t e => match e with
    | (.text path, .text content) => addFile t path content
    | _ => t) .empty
  | _ => .empty

def ofLine (line : String) : Supplies :=
  match Json.read? line with
  | none => {}
  | some d =>
    let start : Supplies := {
      keys := (items (entry d "keys")).filterMap key?
      serials := items (entry d "serials")
      files := filesOf (entry d "files") }
    match entry d "now" with
    | .text s => { start with now := (Moment.ofIso? s).getD start.now }
    | _ => start

/-- A workshop with an engine that has every digest algorithm. -/
def workshop (s : Supplies) : Workshop where
  keys := s.keys.map .ok
  serials := s.serials.map .ok
  clock := fun _ => some s.now
  seconds := []
  stamp := s.now
  engine := .ok ⟨"", fun _ => true⟩
  registered := false

/-- Outlets over the files, with nothing configured. -/
def outlets (s : Supplies) : Log.Outlets := { files := s.files, directory := "." }

end Supplies

end CertMint.CommandLine
