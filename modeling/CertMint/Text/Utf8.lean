import CertMint.Text.Hex

/-! # UTF-8

Characters to octets and back. Decoding is strict: overlong forms, surrogates and values beyond
U+10FFFF are refused at their first wrong octet, and a refusal tells where the sequence stands, how
many octets of it were well formed, and what is wrong.
-/

namespace CertMint.Text

def utf8Char (c : Char) : List UInt8 :=
  let n := c.toNat
  if n < 0x80 then [UInt8.ofNat n]
  else if n < 0x800 then [UInt8.ofNat (0xc0 + n / 64), UInt8.ofNat (0x80 + n % 64)]
  else if n < 0x10000 then
    [UInt8.ofNat (0xe0 + n / 4096), UInt8.ofNat (0x80 + n / 64 % 64), UInt8.ofNat (0x80 + n % 64)]
  else
    [UInt8.ofNat (0xf0 + n / 262144), UInt8.ofNat (0x80 + n / 4096 % 64),
     UInt8.ofNat (0x80 + n / 64 % 64), UInt8.ofNat (0x80 + n % 64)]

def utf8 (s : String) : List UInt8 := s.toList.flatMap utf8Char

/-- What is wrong with a sequence. -/
inductive Utf8Flaw where
  /-- No sequence starts with this octet. -/
  | start
  /-- The octet after the well-formed ones does not continue the sequence. -/
  | continuation
  /-- The octets end inside the sequence. -/
  | truncated
  deriving DecidableEq, Repr

/-- A refusal: where the sequence starts, its well-formed octets and the flaw. -/
structure Utf8Error where
  /-- Number of octets before the sequence. -/
  position : Nat
  /-- The octets that the refusal names. -/
  octets : List UInt8
  flaw : Utf8Flaw
  deriving DecidableEq, Repr

/-- What a first octet announces: how many octets follow, the bits it carries, and the bounds of the
    octet after it. -/
def utf8Lead? (b : UInt8) : Option (Nat × Nat × UInt8 × UInt8) :=
  if b < 0x80 then some (0, b.toNat, 0, 0)
  else if b < 0xc2 then none
  else if b < 0xe0 then some (1, b.toNat - 0xc0, 0x80, 0xbf)
  else if b = 0xe0 then some (2, 0, 0xa0, 0xbf)
  else if b = 0xed then some (2, 0xd, 0x80, 0x9f)
  else if b < 0xf0 then some (2, b.toNat - 0xe0, 0x80, 0xbf)
  else if b = 0xf0 then some (3, 0, 0x90, 0xbf)
  else if b < 0xf4 then some (3, b.toNat - 0xf0, 0x80, 0xbf)
  else if b = 0xf4 then some (3, 4, 0x80, 0x8f)
  else none

/-- State between octets: nothing open, or a sequence with the octets seen, the value so far, how
    many octets are missing and the bounds of the next one. -/
inductive Utf8State where
  | idle
  | open_ (seen : List UInt8) (value missing : Nat) (low high : UInt8)
  deriving DecidableEq, Repr

/-- Decode from a state; `position` counts the octets before the open sequence or the next octet.
    Gives the characters, newest first, and the octets of a sequence left open at the end. -/
def utf8Run (position : Nat) (done : List Char) :
    Utf8State → List UInt8 → Except (Utf8Error × List Char) (List Char × List UInt8)
  | .idle, [] => .ok (done, [])
  | .open_ seen _ _ _ _, [] => .ok (done, seen)
  | .idle, b :: rest =>
    match utf8Lead? b with
    | none => .error (⟨position, [b], .start⟩, done)
    | some (0, value, _, _) => utf8Run (position + 1) (Char.ofNat value :: done) .idle rest
    | some (missing, value, low, high) =>
      utf8Run position done (.open_ [b] value missing low high) rest
  | .open_ seen value missing low high, b :: rest =>
    if low ≤ b ∧ b ≤ high then
      let value := 64 * value + (b.toNat - 0x80)
      if missing ≤ 1 then
        utf8Run (position + seen.length + 1) (Char.ofNat value :: done) .idle rest
      else utf8Run position done (.open_ (seen ++ [b]) value (missing - 1) 0x80 0xbf) rest
    else .error (⟨position, seen, .continuation⟩, done)

def utf8Decode (bs : List UInt8) : Except Utf8Error (List Char) :=
  match utf8Run 0 [] .idle bs with
  | .error (e, _) => .error e
  | .ok (cs, []) => .ok cs.reverse
  | .ok (_, seen) => .error ⟨bs.length - seen.length, seen, .truncated⟩

def ofUtf8? (bs : List UInt8) : Option String :=
  match utf8Decode bs with
  | .ok cs => some (String.ofList cs)
  | .error _ => none

namespace Utf8Flaw

def text : Utf8Flaw → String
  | .start => "invalid start byte"
  | .continuation => "invalid continuation byte"
  | .truncated => "unexpected end of data"

end Utf8Flaw

namespace Utf8Error

def message (e : Utf8Error) : String :=
  let place := match e.octets with
    | [b] => "byte 0x" ++ String.ofList (hexOctet b) ++ " in position " ++ toString e.position
    | bs => "bytes in position " ++ toString e.position ++ "-"
        ++ toString (e.position + bs.length - 1)
  "'utf-8' codec can't decode " ++ place ++ ": " ++ e.flaw.text

end Utf8Error

end CertMint.Text
