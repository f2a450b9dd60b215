import CertMint.Fault

/-! # JSON written

Data as JSON in ASCII: what JSON has no form for, octets and moments, is written as its plain text,
and tuples are lists. A record's keys are written as texts; a key that is itself a list, a tuple, a
record, octets or a moment is refused.
-/

namespace CertMint.Json

/-- The escape of one UTF-16 unit. -/
def unitEscape (n : Nat) : List Char := '\\' :: 'u' :: Text.hexWidth 4 n

def escapeChar (c : Char) : List Char :=
  if c = '\x22' then ['\\', '\x22']
  else if c = '\\' then ['\\', '\\']
  else if c = '\n' then ['\\', 'n']
  else if c = '\r' then ['\\', 'r']
  else if c = '\t' then ['\\', 't']
  else if c = '\x08' then ['\\', 'b']
  else if c = '\x0c' then ['\\', 'f']
  else if 32 ≤ c.toNat ∧ c.toNat ≤ 126 then [c]
  else if c.toNat < 0x10000 then unitEscape c.toNat
  else unitEscape (0xd800 + (c.toNat - 0x10000) / 1024)
    ++ unitEscape (0xdc00 + (c.toNat - 0x10000) % 1024)

def quote (cs : List Char) : List Char :=
  '\x22' :: cs.flatMap escapeChar ++ ['\x22']

/-- A number, with the words for what is not finite. -/
def realText (x : Binary64) : String :=
  match x.meaning with
  | .nan => "NaN"
  | .infinite s => if s then "-Infinity" else "Infinity"
  | .finite _ _ _ => x.text

def integerText (i : Int) : Except Fault String :=
  match Integer.text? i with
  | some s => .ok s
  | none => .error .integerTooLong

/-- The text that a key is written as. -/
def keyText : Datum → Except Fault String
  | .text s => .ok s
  | .none => .ok "null"
  | .bool b => .ok (if b then "true" else "false")
  | .int i => integerText i
  | .real x => .ok (realText x)
  | d => .error (.of .type ("keys must be str, int, float, bool or None, not "
      ++ d.bareKindName))

/-- Parts with a comma and a blank between them. -/
def joined : List (List Char) → List Char
  | [] => []
  | [part] => part
  | part :: rest => part ++ ',' :: ' ' :: joined rest

mutual

def write : Datum → Except Fault (List Char)
  | .none => .ok "null".toList
  | .bool b => .ok (if b then "true".toList else "false".toList)
  | .int i => (integerText i).map String.toList
  | .real x => .ok (realText x).toList
  | .text s => .ok (quote s.toList)
  | .octets bs => .ok (quote (Text.quotedOctets bs).toList)
  | .moment m => .ok (quote (m.textWith ' ').toList)
  | .list items => (writeItems items).map fun parts => '[' :: joined parts ++ [']']
  | .tuple items => (writeItems items).map fun parts => '[' :: joined parts ++ [']']
  | .record entries => (writeEntries entries).map fun parts => '\x7b' :: joined parts ++ ['\x7d']

def writeItems : List Datum → Except Fault (List (List Char))
  | [] => .ok []
  | d :: rest => do
    let part ← write d
    return part :: (← writeItems rest)

def writeEntries : List (Datum × Datum) → Except Fault (List (List Char))
  | [] => .ok []
  | (key, d) :: rest => do
    let name ← keyText key
    let part ← write d
    return (quote name.toList ++ ':' :: ' ' :: part) :: (← writeEntries rest)

end

def line (d : Datum) : Except Fault String := (write d).map String.ofList

end CertMint.Json
