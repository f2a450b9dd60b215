/-! # Path texts

The parts of a path text: the directory before its last slash, its last name, and its normal form,
in which names stand between single slashes and no name is a dot.
-/

namespace CertMint.Files

/-- The names of a path text; slashes that follow each other, begin or end it make no name. -/
def names (path : String) : List String :=
  ((path.toList.splitOn '/').filter fun cs => !cs.isEmpty).map String.ofList

/-- Drop slashes at the end, unless there is nothing else. -/
def dropSlashes (cs : List Char) : List Char :=
  if cs.all (· = '/') then cs else (cs.reverse.dropWhile (· = '/')).reverse

/-- A path text up to its last slash, and what follows the slash. -/
def splitLast (path : String) : List Char × List Char :=
  let back := path.toList.reverse
  ((back.dropWhile (· ≠ '/')).reverse, (back.takeWhile (· ≠ '/')).reverse)

/-- The directory part of a path text: empty when it has no slash. -/
def directory (path : String) : String := String.ofList (dropSlashes (splitLast path).1)

/-- The part of a path text after its last slash. -/
def lastName (path : String) : String := String.ofList (splitLast path).2

/-- A name without its last extension; dots at its beginning start no extension. -/
def stem (name : String) : String :=
  let dots := name.toList.takeWhile (· = '.')
  let back := (name.toList.drop dots.length).reverse
  if back.contains '.' then
    String.ofList (dots ++ ((back.dropWhile (· ≠ '.')).drop 1).reverse)
  else name

/-- Whether a path text starts at the root. -/
def isAbsolute (path : String) : Bool := path.toList.head? = some '/'

/-- Names with every `..` taken together with the name before it. At the root there is nothing
    above. -/
def foldUps (absolute : Bool) (done : List String) : List String → List String
  | [] => done.reverse
  | "." :: rest => foldUps absolute done rest
  | ".." :: rest =>
    match done with
    | [] => foldUps absolute (if absolute then [] else [".."]) rest
    | ".." :: _ => foldUps absolute (".." :: done) rest
    | _ :: above => foldUps absolute above rest
  | name :: rest => foldUps absolute (name :: done) rest

/-- A path text in which no name is `.` and no `..` follows another name, whatever the directories
    that it goes through. -/
def normal (path : String) : String :=
  let absolute := isAbsolute path
  (if absolute then "/" else "") ++ "/".intercalate (foldUps absolute [] (names path))

/-- A path text without double slashes and dots; `..` stays. -/
def tidyNames (path : String) : List String := (names path).filter (· ≠ ".")

/-- The text of a path with the given names. -/
def join (absolute : Bool) (parts : List String) : String :=
  let body := "/".intercalate parts
  if absolute then "/" ++ body else if parts.isEmpty then "." else body

end CertMint.Files
