import CertMint.Ini.Document
import CertMint.Text.LetterCase
import CertMint.Text.Quoted

/-! # References in values

A value may refer to another option of its section: `%(name)s` stands for that option's value, in
which references are replaced in turn, and `%%` stands for one percent sign. References may be nested
ten deep.
-/

namespace CertMint.Ini

/-- A part of a value. -/
inductive Part where
  | text (cs : List Char)
  | reference (name : String)
  /-- A percent sign that begins neither; with it, all that follows. -/
  | flaw (rest : List Char)
  deriving Repr, DecidableEq

/-- Why a value cannot be read. -/
inductive ReferenceError where
  /-- A percent sign and a bracket begin no reference. -/
  | malformed (rest : String)
  /-- A percent sign stands alone. -/
  | stray (rest : String)
  | missing (name : String)
  | tooDeep
  deriving Repr, DecidableEq

def maxDepth : Nat := 10

def parts : Nat → List Char → List Part
  | 0, _ => []
  | _, [] => []
  | fuel + 1, '%' :: '%' :: rest => .text ['%'] :: parts fuel rest
  | fuel + 1, '%' :: '(' :: rest =>
    let name := rest.takeWhile (· ≠ ')')
    match name, rest.drop name.length with
    | _ :: _, ')' :: 's' :: after => .reference (Text.lower (String.ofList name)) :: parts fuel after
    | _, _ => [.flaw ('%' :: '(' :: rest)]
  | _ + 1, '%' :: rest => [.flaw ('%' :: rest)]
  | fuel + 1, c :: rest =>
    let run := rest.takeWhile (· ≠ '%')
    .text (c :: run) :: parts fuel (rest.drop run.length)

def partsOf (value : String) : List Part := parts value.length value.toList

/-- What stands for each part, in order; `nested` reads the value of another option. -/
def expandParts (options : Options) (nested : String → Except ReferenceError (List Char)) :
    List Part → Except ReferenceError (List Char)
  | [] => .ok []
  | .text cs :: rest => (expandParts options nested rest).map (cs ++ ·)
  | .reference name :: rest =>
    match Keyed.get? name options with
    | none => .error (.missing name)
    | some value => do
      let cs ← if value.toList.contains '%' then nested value else .ok value.toList
      return cs ++ (← expandParts options nested rest)
  | .flaw rest :: _ =>
    match rest with
    | _ :: '(' :: _ => .error (.malformed (String.ofList rest))
    | _ => .error (.stray (String.ofList rest))

def expandWithin (options : Options) : Nat → String → Except ReferenceError (List Char)
  | 0, _ => .error .tooDeep
  | depth + 1, value => expandParts options (expandWithin options depth) (partsOf value)

def expand (options : Options) (value : String) : Except ReferenceError String :=
  (expandWithin options maxDepth value).map String.ofList

namespace ReferenceError

/-- The error in words, for the value `raw` of an option in a section. -/
def message (option inSection raw : String) : ReferenceError → String
  | .malformed rest => "bad interpolation variable reference " ++ Text.quoted rest
  | .stray rest => "'%' must be followed by '%' or '(', found: " ++ Text.quoted rest
  | .missing name => "Bad value substitution: option " ++ Text.quoted option ++ " in section "
      ++ Text.quoted inSection ++ " contains an interpolation key " ++ Text.quoted name
      ++ " which is not a valid option name. Raw value: " ++ Text.quoted raw
  | .tooDeep => "Recursion limit exceeded in value substitution: option " ++ Text.quoted option
      ++ " in section " ++ Text.quoted inSection ++ " contains an interpolation key which "
      ++ "cannot be substituted in " ++ toString maxDepth ++ " steps. Raw value: "
      ++ Text.quoted raw

end ReferenceError

end CertMint.Ini
