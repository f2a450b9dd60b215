import CertMint.Text.Printable
import CertMint.Text.Hex

/-! # Quoted text

A text or a run of octets between quotes, as error messages show it. The single quote is the usual
mark; the double quote is taken when the content has single quotes and no double quotes. Whatever is
not printable is an escape.
-/

namespace CertMint.Text

def singleQuote : Char := '\x27'

def doubleQuote : Char := '\x22'

def quoteMark (hasSingle hasDouble : Bool) : Char :=
  if hasSingle && !hasDouble then doubleQuote else singleQuote

def quoteChar (mark c : Char) : List Char :=
  if c = mark ∨ c = '\\' then ['\\', c]
  else if c = '\t' then ['\\', 't']
  else if c = '\n' then ['\\', 'n']
  else if c = '\r' then ['\\', 'r']
  else if isPrintable c then [c]
  else if c.toNat < 0x100 then '\\' :: 'x' :: hexWidth 2 c.toNat
  else if c.toNat < 0x10000 then '\\' :: 'u' :: hexWidth 4 c.toNat
  else '\\' :: 'U' :: hexWidth 8 c.toNat

def quoted (s : String) : String :=
  let mark := quoteMark (s.toList.contains singleQuote) (s.toList.contains doubleQuote)
  String.ofList (mark :: s.toList.flatMap (quoteChar mark) ++ [mark])

/-- One character inside the given quotes, with every character beyond ASCII as an escape. -/
def asciiQuoteChar (mark c : Char) : List Char :=
  if c.toNat < 127 then quoteChar mark c
  else if c.toNat < 0x100 then '\\' :: 'x' :: hexWidth 2 c.toNat
  else if c.toNat < 0x10000 then '\\' :: 'u' :: hexWidth 4 c.toNat
  else '\\' :: 'U' :: hexWidth 8 c.toNat

/-- A text with every character beyond ASCII as an escape; other characters stand as they are. -/
def asciiOnly (s : String) : String :=
  String.ofList (s.toList.flatMap fun c =>
    if c.toNat < 128 then [c] else asciiQuoteChar singleQuote c)

def quoteOctet (mark : Char) (b : UInt8) : List Char :=
  let c := Char.ofNat b.toNat
  if b < 0x80 then quoteChar mark c else '\\' :: 'x' :: hexWidth 2 b.toNat

def quotedOctets (bs : List UInt8) : String :=
  let mark := quoteMark (bs.contains 0x27) (bs.contains 0x22)
  String.ofList ('b' :: mark :: bs.flatMap (quoteOctet mark) ++ [mark])

end CertMint.Text
