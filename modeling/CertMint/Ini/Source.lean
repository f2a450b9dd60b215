import CertMint.Text.Utf8

/-! # The lines of a settings file

A settings file is read in blocks of octets. Each block is decoded together with what the one before
it left open, and lines are handed out as soon as they are complete. A flaw in the encoding
therefore hides only the lines that were not complete before its block, and is placed by its distance
from the start of what was decoded together.
-/

namespace CertMint.Ini

def blockSize : Nat := 8192

/-- What a file gives: its lines, each with its line end, and the flaw that ended them. -/
structure Source where
  lines : List String
  flaw : Option Text.Utf8Error
  deriving Repr, DecidableEq

/-- Line ends of all kinds as single newlines. -/
def newlines : List Char → List Char
  | '\r' :: '\n' :: rest => '\n' :: newlines rest
  | '\r' :: rest => '\n' :: newlines rest
  | c :: rest => c :: newlines rest
  | [] => []

/-- Split after newlines. `line` is the line begun, newest character first. -/
def splitLines (line : List Char) : List Char → List (List Char)
  | [] => if line.isEmpty then [] else [line.reverse]
  | c :: rest =>
    if c = '\n' then (c :: line).reverse :: splitLines [] rest else splitLines (c :: line) rest

/-- Split off two octets at the end that begin a surrogate. What is wrong with them is told only
    together with what follows. -/
def holdSurrogate (octets : List UInt8) : List UInt8 × List UInt8 :=
  match octets.reverse with
  | b :: 0xed :: before =>
    if 0xa0 ≤ b ∧ b ≤ 0xbf then (before.reverse, [0xed, b]) else (octets, [])
  | _ => (octets, [])

/-- What is wrong with octets that the last block left open. -/
def openFlaw (octets : List UInt8) : Option Text.Utf8Error :=
  match Text.utf8Run 0 [] .idle octets with
  | .error (e, _) => some e
  | .ok (_, []) => none
  | .ok (_, seen) => some ⟨0, seen, .truncated⟩

/-- The characters decoded from blocks, newest first, and the flaw that ended them. `openOctets` is
    what the block before left open. -/
def decodeBlocks : Nat → List UInt8 → List Char → List UInt8 → List Char × Option Text.Utf8Error
  | 0, _, done, _ => (done, none)
  | fuel + 1, openOctets, done, octets =>
    if octets.isEmpty then (done, openFlaw openOctets)
    else
      let (ready, held) := holdSurrogate (openOctets ++ octets.take blockSize)
      match Text.utf8Run 0 [] .idle ready with
      | .error (e, _) => (done, some e)
      | .ok (cs, seen) =>
        if seen.isEmpty || held.isEmpty then
          decodeBlocks fuel (seen ++ held) (cs ++ done) (octets.drop blockSize)
        else (done, some ⟨ready.length - seen.length, seen, .continuation⟩)

/-- The characters of lines that are complete, when a flaw ends the file: up to the last line end,
    where a carriage return at the very end does not count, because a newline may follow it. -/
def completePart (newestFirst : List Char) : List Char :=
  let settled := match newestFirst with
    | '\r' :: rest => rest
    | cs => cs
  settled.dropWhile fun c => c ≠ '\n' && c ≠ '\r'

def Source.ofOctets (octets : List UInt8) : Source :=
  let (done, flaw) := decodeBlocks (octets.length + 1) [] [] octets
  let cs := if flaw.isSome then completePart done else done
  ⟨(splitLines [] (newlines cs.reverse)).map String.ofList, flaw⟩

end CertMint.Ini
