import CertMint.Fault
import CertMint.Number.Places

/-! # Message templates

A template is a text with directives, each a percent sign, options and a letter. Filling it replaces
every directive by the text of an argument: the next one of a tuple, or the one that the directive
names when the arguments are a record. Filling is refused when a directive is malformed, when an
argument is missing or does not fit its directive, and when arguments of a tuple are left over.
-/

namespace CertMint.Log.Template

/-- The arguments of a template. -/
inductive Arguments where
  | items (ds : List Datum)
  | entries (ds : List (Datum × Datum))

/-- Where a directive takes its values from. -/
inductive Supply where
  /-- The values of a tuple that are left. -/
  | items (ds : List Datum)
  /-- A single value, until it is taken. -/
  | single (d : Option Datum)

/-- The options of a directive. -/
structure Flags where
  /-- Stand at the left of the width. -/
  left : Bool := false
  /-- Mark numbers that are not negative with a plus sign. -/
  plus : Bool := false
  /-- Mark numbers that are not negative with a blank. -/
  blank : Bool := false
  /-- Show the base of a number, or its point. -/
  alternate : Bool := false
  /-- Fill numbers with zeros. -/
  zero : Bool := false

/-- A directive after its options are read. -/
structure Directive where
  flags : Flags
  width : Option Nat
  /-- The greatest length of a text, or the precision of a number. -/
  precision : Option Nat
  letter : Char

def wrongType (message : String) : Except Fault α := .error (.of .type message)

def wrongValue (message : String) : Except Fault α := .error (.of .value message)

def Supply.next : Supply → Except Fault (Datum × Supply)
  | .items (d :: ds) => .ok (d, .items ds)
  | .single (some d) => .ok (d, .single none)
  | .items [] | .single none => wrongType "not enough arguments for format string"

/-- Read a name up to its closing bracket; brackets inside it are paired. -/
def takeName : Nat → List Char → List Char → Option (List Char × List Char)
  | _, _, [] => none
  | depth, name, c :: rest =>
    if c = ')' then
      match depth with
      | 0 => some (name.reverse, rest)
      | depth + 1 => takeName depth (c :: name) rest
    else if c = '(' then takeName (depth + 1) (c :: name) rest
    else takeName depth (c :: name) rest

def takeFlags (flags : Flags) : List Char → Flags × List Char
  | '-' :: rest => takeFlags { flags with left := true } rest
  | '+' :: rest => takeFlags { flags with plus := true } rest
  | ' ' :: rest => takeFlags { flags with blank := true } rest
  | '#' :: rest => takeFlags { flags with alternate := true } rest
  | '0' :: rest => takeFlags { flags with zero := true } rest
  | rest => (flags, rest)

def maxWidth : Nat := 9223372036854775807

def maxPrecision : Nat := 2147483647

/-- The width from which on there is no memory for a text. -/
def memoryWidth : Nat := 4294967296

/-- Read digits as a number up to a limit. -/
def takeDigits (limit : Nat) (cs : List Char) : Option (Nat × List Char) :=
  let n := (cs.takeWhile Char.isDigit).foldl (fun n c => 10 * n + (c.toNat - 48)) 0
  if n ≤ limit then some (n, cs.dropWhile Char.isDigit) else none

/-- Take a value that is an integer of at most `limit` in magnitude. -/
def takeInteger (limit : Nat) (word : String) (supply : Supply) :
    Except Fault (Int × Supply) := do
  let (d, supply) ← supply.next
  match d.int? with
  | none => wrongType "* wants int"
  | some i =>
    if (limit : Int) < i ∨ i < -(limit : Int) - 1 then
      .error (.of .overflow ("Python int too large to convert to C " ++ word))
    else return (i, supply)

/-- Read the width, which may be a value. A negative one puts the text at the left; the least integer
    of the range, whose magnitude is outside of it, gives no width. -/
def takeWidth (flags : Flags) (supply : Supply) (cs : List Char) :
    Except Fault (Flags × Option Nat × Supply × List Char) :=
  match cs with
  | '*' :: rest => do
    let (i, supply) ← takeInteger maxWidth "ssize_t" supply
    let width := if i.natAbs ≤ maxWidth then some i.natAbs else none
    return ({ flags with left := flags.left || i < 0 }, width, supply, rest)
  | c :: _ =>
    if c.isDigit then
      match takeDigits maxWidth cs with
      | some (n, rest) => return (flags, some n, supply, rest)
      | none => wrongValue "width too big"
    else return (flags, none, supply, cs)
  | [] => return (flags, none, supply, [])

/-- Read the precision, which may be a value. -/
def takePrecision (supply : Supply) (cs : List Char) :
    Except Fault (Option Nat × Supply × List Char) :=
  match cs with
  | '.' :: '*' :: rest => do
    let (i, supply) ← takeInteger maxPrecision "int" supply
    return (some i.toNat, supply, rest)
  | '.' :: rest =>
    match takeDigits maxPrecision rest with
    | some (n, rest) => return (some n, supply, rest)
    | none => wrongValue "precision too big"
  | rest => return (none, supply, rest)

/-- Skip a letter that once told a number's size. -/
def skipSize : List Char → List Char
  | c :: rest => if c = 'h' ∨ c = 'l' ∨ c = 'L' then rest else c :: rest
  | [] => []

/-- The text of an argument together with whether it can have a sign. -/
structure Piece where
  body : List Char
  signed : Bool

/-- Put a text into its width: sign, base mark, filling and digits in their order. -/
def place (d : Directive) (piece : Piece) : List Char :=
  let numeric := piece.signed
  let fillZero := d.flags.zero && numeric
  let body := match d.precision with
    | some n => if numeric || d.letter = 'c' then piece.body else piece.body.take n
    | none => piece.body
  let (sign, body) := match numeric, body with
    | true, '-' :: rest => (['-'], rest)
    | true, '+' :: rest => (['+'], rest)
    | true, rest =>
      (if d.flags.plus then ['+'] else if d.flags.blank then [' '] else [], rest)
    | false, rest => ([], rest)
  let based := numeric && d.flags.alternate
    && (d.letter = 'x' || d.letter = 'X' || d.letter = 'o')
  let (mark, body) := if based then (body.take 2, body.drop 2) else ([], body)
  let padding := d.width.getD 0 - (sign.length + mark.length + body.length)
  if d.flags.left then sign ++ mark ++ body ++ List.replicate padding ' '
  else if fillZero then sign ++ mark ++ List.replicate padding '0' ++ body
  else List.replicate padding ' ' ++ sign ++ mark ++ body

/-- The upper-case form of an ASCII text. -/
def upperAscii (cs : List Char) : List Char := cs.map Char.toUpper

/-- The digits of an integer in the base of a letter, filled up to a precision. -/
def integerText (d : Directive) (i : Int) : Except Fault (List Char) := do
  let digits ← match d.letter with
    | 'o' => pure (Nat.toDigits 8 i.natAbs)
    | 'x' => pure (Nat.toDigits 16 i.natAbs)
    | 'X' => pure (upperAscii (Nat.toDigits 16 i.natAbs))
    | _ => match Integer.text? i.natAbs with
      | some s => pure s.toList
      | none => .error .integerTooLong
  let mark := if d.flags.alternate then match d.letter with
      | 'o' => ['0', 'o']
      | 'x' => ['0', 'x']
      | 'X' => ['0', 'X']
      | _ => []
    else []
  let filled := List.replicate (d.precision.getD 0 - digits.length) '0' ++ digits
  return (if i < 0 then ['-'] else []) ++ mark ++ filled

def integerOf (letter : Char) (d : Datum) : Except Fault Int :=
  let based := letter = 'o' ∨ letter = 'x' ∨ letter = 'X'
  let need := if based then "an integer" else "a real number"
  let refuse : Except Fault Int := wrongType ("%" ++ String.singleton letter ++ " format: "
    ++ need ++ " is required, not " ++ d.kindName)
  match d.int?, d with
  | some i, _ => .ok i
  | none, .real x =>
    if based then refuse
    else match x.truncate? with
      | some i => .ok i
      | none => if x == .nan then wrongValue "cannot convert float NaN to integer"
        else .error (.of .overflow "cannot convert float infinity to integer")
  | none, _ => refuse

def realOf (d : Datum) : Except Fault Binary64 :=
  match d.int?, d with
  | some i, _ =>
    let x := Binary64.ofInt i
    if x == .infinity (i < 0) then .error (.of .overflow "int too large to convert to float")
    else .ok x
  | none, .real x => .ok x
  | none, d => wrongType ("must be real number, not " ++ d.kindName)

def charOf (d : Datum) : Except Fault Char :=
  match d with
  | .text s => match s.toList with
    | [c] => .ok c
    | _ => wrongType "%c requires int or char"
  | d => match d.int? with
    | none => wrongType "%c requires int or char"
    | some i =>
      if 0 ≤ i ∧ i < 0x110000 then .ok (Char.ofNat i.toNat)
      else .error (.of .overflow "%c arg not in range(0x110000)")

def styleOf (letter : Char) : Binary64.Style :=
  if letter = 'e' ∨ letter = 'E' then .scientific
  else if letter = 'f' ∨ letter = 'F' then .fixed
  else .general

/-- The text of an argument under a directive that ends before `index`. -/
def pieceOf (d : Directive) (index : Nat) (datum : Datum) : Except Fault Piece :=
  match d.letter with
  | 's' => datum.plain.map fun s => ⟨s.toList, false⟩
  | 'r' => datum.shown.map fun s => ⟨s.toList, false⟩
  | 'a' => datum.shown.map fun s => ⟨(Text.asciiOnly s).toList, false⟩
  | 'c' => (charOf datum).map fun c => ⟨[c], false⟩
  | 'd' | 'i' | 'u' | 'o' | 'x' | 'X' => do
    let i ← integerOf d.letter datum
    return ⟨← integerText d i, true⟩
  | 'e' | 'E' | 'f' | 'F' | 'g' | 'G' => do
    let x ← realOf datum
    let body := (x.styled (styleOf d.letter) (d.precision.getD 6) d.flags.alternate).toList
    return ⟨if d.letter.isUpper then upperAscii body else body, true⟩
  | c =>
    let shown := if 31 ≤ c.toNat ∧ c.toNat < 128 then c else '?'
    wrongValue ("unsupported format character '" ++ String.singleton shown ++ "' (0x"
      ++ String.ofList (Nat.toDigits 16 c.toNat) ++ ") at index " ++ toString (index - 1))

/-- Read the name of a directive, if it has one, and say where its values come from. -/
def takeSupply (arguments : Arguments) (supply : Supply) (cs : List Char) :
    Except Fault (Supply × List Char) :=
  match cs with
  | '(' :: rest =>
    match arguments with
    | .items _ => wrongType "format requires a mapping"
    | .entries entries =>
      match takeName 0 [] rest with
      | none => wrongValue "incomplete format key"
      | some (name, rest) =>
        let key := String.ofList name
        match entries.find? fun entry => Datum.same entry.1 (.text key) with
        | some entry => .ok (.single (some entry.2), rest)
        | none => .error (.of .key (Text.quoted key))
  | cs => .ok (supply, cs)

/-- Fill one directive, given what follows its percent sign and is not another one. The text ends at
    `total`. -/
def fillDirective (total : Nat) (arguments : Arguments) (supply : Supply) (cs : List Char) :
    Except Fault (List Char × Supply × List Char) := do
  let (supply, cs) ← takeSupply arguments supply cs
  let (flags, cs) := takeFlags {} cs
  let (flags, width, supply, cs) ← takeWidth flags supply cs
  let (precision, supply, cs) ← takePrecision supply cs
  match skipSize cs with
  | [] => wrongValue "incomplete format"
  | letter :: rest =>
    let (datum, supply) ← supply.next
    let directive : Directive := ⟨flags, width, precision, letter⟩
    let piece ← pieceOf directive (total - rest.length) datum
    if memoryWidth ≤ width.getD 0 then throw (.of .memory "")
    return (place directive piece, supply, rest)

/-- Fill the directives of a text. Two percent signs in a row stand for one. `done` is what was
    written before, newest character first. -/
def fillFrom (total : Nat) (arguments : Arguments) :
    Nat → Supply → List Char → List Char → Except Fault (List Char)
  | _, .items (_ :: _), done, [] =>
    match arguments with
    | .items _ => wrongType "not all arguments converted during string formatting"
    | .entries _ => .ok done.reverse
  | _, _, done, [] => .ok done.reverse
  | 0, _, done, _ => .ok done.reverse
  | fuel + 1, supply, done, '%' :: '%' :: rest =>
    fillFrom total arguments fuel supply ('%' :: done) rest
  | fuel + 1, supply, done, '%' :: rest =>
    match fillDirective total arguments supply rest with
    | .error f => .error f
    | .ok (written, supply, rest) =>
      fillFrom total arguments fuel supply (written.reverseAux done) rest
  | fuel + 1, supply, done, c :: rest => fillFrom total arguments fuel supply (c :: done) rest

def fill (template : String) (arguments : Arguments) : Except Fault String :=
  let cs := template.toList
  let supply := match arguments with
    | .items ds => Supply.items ds
    | .entries ds => .single (some (.record ds))
  (fillFrom cs.length arguments cs.length supply [] cs).map String.ofList

end CertMint.Log.Template
