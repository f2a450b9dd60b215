import CertMint.Der.Reader
import CertMint.Fault
import CertMint.Text.Utf8

/-! # Names in certificates

A name is a sequence of sets of attributes, each a type and a text in one of several encodings. Two
names can be compared by their encodings or by their texts, and a name has a one-line text.
-/

namespace CertMint.X509

/-- An attribute of a name. -/
structure Attribute where
  type : Der.Oid
  tag : UInt8
  content : List UInt8
  deriving DecidableEq, Repr

/-- A name: sets of attributes, the most general first. -/
structure Name where
  sets : List (List Attribute)
  deriving DecidableEq, Repr

namespace Attribute

def commonName : Der.Oid := [2, 5, 4, 3]

def shortNames : List (Der.Oid × String) :=
  [(commonName, "CN"), ([2, 5, 4, 7], "L"), ([2, 5, 4, 8], "ST"), ([2, 5, 4, 10], "O"),
   ([2, 5, 4, 11], "OU"), ([2, 5, 4, 6], "C"), ([2, 5, 4, 9], "STREET"),
   ([0, 9, 2342, 19200300, 100, 1, 25], "DC"), ([0, 9, 2342, 19200300, 100, 1, 1], "UID")]

/-- The short name of a type, or its arcs. -/
def label (a : Attribute) : String :=
  match shortNames.find? (·.1 == a.type) with
  | some (_, name) => name
  | none => Der.oidText a.type

/-- The text of octets in units of two octets, the first counting most. -/
def utf16? : List UInt8 → Option (List Char)
  | [] => some []
  | a :: b :: c :: d :: rest =>
    let high := a.toNat * 256 + b.toNat
    let low := c.toNat * 256 + d.toNat
    if 0xd800 ≤ high ∧ high < 0xdc00 ∧ 0xdc00 ≤ low ∧ low < 0xe000 then
      (utf16? rest).map (Char.ofNat (0x10000 + (high - 0xd800) * 1024 + (low - 0xdc00)) :: ·)
    else if 0xd800 ≤ high ∧ high < 0xe000 then none
    else (utf16? (c :: d :: rest)).map (Char.ofNat high :: ·)
  | [a, b] =>
    let n := a.toNat * 256 + b.toNat
    if 0xd800 ≤ n ∧ n < 0xe000 then none else some [Char.ofNat n]
  | _ => none

/-- The text of octets in units of four octets, the first counting most. -/
def utf32? : List UInt8 → Option (List Char)
  | [] => some []
  | a :: b :: c :: d :: rest =>
    let n := ((a.toNat * 256 + b.toNat) * 256 + c.toNat) * 256 + d.toNat
    if 0x110000 ≤ n ∨ (0xd800 ≤ n ∧ n < 0xe000) then none
    else (utf32? rest).map (Char.ofNat n :: ·)
  | _ => none

/-- The text of an attribute; an attribute of bits has none, but is written as octets. -/
def value? (a : Attribute) : Option Datum :=
  if a.tag = 0x03 then some (.octets (a.content.drop 1))
  else if a.tag = 0x1e then (utf16? a.content).map fun cs => .text (String.ofList cs)
  else if a.tag = 0x1c then (utf32? a.content).map fun cs => .text (String.ofList cs)
  else (Text.ofUtf8? a.content).map .text

def special : List Char := ['\\', '\x22', '+', ',', ';', '<', '>']

def escapeChar (c : Char) : List Char :=
  if c = '\x00' then ['\\', '0', '0'] else if special.contains c then ['\\', c] else [c]

/-- A backslash before a blank or a number sign that begins a text; a blank alone does not begin
    it. -/
def escapeFirst : List Char → List Char
  | '#' :: rest => '\\' :: '#' :: rest
  | ' ' :: c :: rest => '\\' :: ' ' :: c :: rest
  | cs => cs

/-- A backslash before a blank that ends a text. -/
def escapeLast (cs : List Char) : List Char :=
  match cs.reverse with
  | ' ' :: before => (' ' :: '\\' :: before).reverse
  | _ => cs

/-- A text with everything escaped that has a meaning in the one-line text. -/
def escape (cs : List Char) : List Char := escapeLast (escapeFirst (cs.flatMap escapeChar))

def line? (a : Attribute) : Option String :=
  match a.value? with
  | some (.octets bs) =>
    some (a.label ++ "=" ++ if bs.isEmpty then "" else "#" ++ Text.hex bs)
  | some (.text s) => some (a.label ++ "=" ++ String.ofList (escape s.toList))
  | _ => none

/-- Whether two attributes have one type and one text. -/
def same (a b : Attribute) : Bool :=
  a.type == b.type && match a.value?, b.value? with
    | some x, some y => x.same y
    | _, _ => false

def encode (a : Attribute) : List UInt8 :=
  Der.sequence [Der.oid a.type, Der.value a.tag a.content]

def ofElement? (e : Der.Element) : Option Attribute := do
  let [type, text] ← e.sequence? | none
  return ⟨← type.oid?, text.tag, text.content⟩

end Attribute

/-- What the reader of certificates says of octets that are no certificate. -/
def readerText : String := "error parsing asn1 value"

/-- The fault of octets that the reader refuses. -/
def readerFault : Fault := .of .value readerText

namespace Name

/-- The name that consists of one common name. -/
def ofCommonName (s : String) : Name := ⟨[[⟨Attribute.commonName, 0x0c, Text.utf8 s⟩]]⟩

def encode (n : Name) : List UInt8 :=
  Der.sequence (n.sets.map fun set => Der.set (set.map Attribute.encode))

def inOrder : List (List UInt8) → Bool
  | a :: b :: rest => !(b.lex a (· < ·)) && inOrder (b :: rest)
  | _ => true

def setOfElement? (e : Der.Element) : Option (List Attribute) := do
  let parts ← Der.elements? (← e.tagged? 0x31)
  if inOrder (parts.map (·.raw)) then parts.mapM Attribute.ofElement? else none

def ofElement? (e : Der.Element) : Option Name := do
  return ⟨← (← e.sequence?).mapM setOfElement?⟩

/-- Whether two attributes of one set are the same. -/
def repeats : List Attribute → Bool
  | [] => false
  | a :: rest => rest.any a.same || repeats rest

/-- The one-line text: the most special set first, with commas between sets. -/
def text (n : Name) : Except Fault String :=
  match n.sets.mapM fun set => set.mapM Attribute.line? with
  | none => .error readerFault
  | some lines =>
    if n.sets.any repeats then .error (.of .value "duplicate attributes are not allowed")
    else .ok (",".intercalate (lines.reverse.map fun set => "+".intercalate set))

/-- Whether two sets have the same attributes, in whatever order. -/
def sameSet (a b : List Attribute) : Bool :=
  a.length == b.length && a.all fun x => b.any x.same

def same (a b : Name) : Bool :=
  a.sets.length == b.sets.length && (a.sets.zip b.sets).all fun (x, y) => sameSet x y

end Name

end CertMint.X509
