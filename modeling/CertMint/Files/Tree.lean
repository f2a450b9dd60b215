import CertMint.Fault
import CertMint.Files.Path
import CertMint.Keyed

/-! # File trees

The directories and files that a program sees from its working directory, and the operations on them
with the refusals of a Unix file system. A path is walked name by name through directories; `..` goes
up, also out of the working directory, where no further entries are known.
-/

namespace CertMint.Files

/-- Where a walk starts or has gone to above all known entries. -/
inductive Base where
  /-- So many levels above the working directory. -/
  | above (levels : Nat)
  | root
  deriving DecidableEq, Repr

/-- A place in a file system: the names below a base. -/
structure Place where
  base : Base
  /-- The names, outermost first. -/
  names : List String
  deriving DecidableEq, Repr

/-- What stands at a place. -/
inductive Entry where
  | file (content : ByteArray)
  | folder
  /-- Something that is no directory and cannot be opened, such as a socket or a file that nobody may use,
      with the number and the reason that the system gives. -/
  | barred (number : Int) (reason : String)

/-- A file tree: what stands at each place below a base. Bases themselves are directories. -/
structure Tree where
  /-- The entries, in the order in which they were made. -/
  entries : List (Place × Entry)

/-- Why an operation on files is refused. -/
inductive Refusal where
  /-- Nothing is at a place that has to exist. -/
  | missing
  /-- Something is at a place that has to be free. -/
  | taken
  | notFolder
  | isFolder
  /-- What is at a place cannot be opened. -/
  | barred (number : Int) (reason : String)
  | tooLong
  /-- A path has a zero character in it. -/
  | zeroInPath
  deriving DecidableEq, Repr

namespace Refusal

/-- The fault that a refusal on a path is. -/
def fault (r : Refusal) (path : String) : Fault :=
  match r with
  | .missing => .ofSystem 2 "No such file or directory" path
  | .taken => .ofSystem 17 "File exists" path
  | .notFolder => .ofSystem 20 "Not a directory" path
  | .isFolder => .ofSystem 21 "Is a directory" path
  | .barred number reason => .ofSystem number reason path
  | .tooLong => .ofSystem 36 "File name too long" path
  | .zeroInPath => .of .value "embedded null byte"

end Refusal

namespace Place

def here : Place := ⟨.above 0, []⟩

/-- The place of a name in the directory at a place. -/
def child (p : Place) (name : String) : Place := { p with names := p.names ++ [name] }

def parent (p : Place) : Place :=
  match p.base, p.names with
  | .above n, [] => ⟨.above (n + 1), []⟩
  | .root, [] => p
  | _, names => { p with names := names.dropLast }

end Place

namespace Tree

/-- A tree with nothing in it. -/
def empty : Tree := ⟨[]⟩

def find? (t : Tree) (p : Place) : Option Entry :=
  if p.names.isEmpty then some .folder else Keyed.get? p t.entries

def put (t : Tree) (p : Place) (e : Entry) : Tree := ⟨Keyed.put p e t.entries⟩

def remove (t : Tree) (p : Place) : Tree := ⟨Keyed.drop p t.entries⟩

/-- The greatest length of a name in octets. -/
def maxName : Nat := 255

/-- The length in octets from which on a path is refused. -/
def maxPath : Nat := 4096

/-- Walk names from a place, which has to be a directory whenever a name follows. -/
def walk (t : Tree) : Place → List String → Except Refusal Place
  | p, [] => .ok p
  | p, name :: rest =>
    match t.find? p with
    | none => .error .missing
    | some (.file _) | some (.barred _ _) => .error .notFolder
    | some .folder =>
      if name = "." then walk t p rest
      else if name = ".." then walk t p.parent rest
      else if maxName < name.utf8ByteSize then .error .tooLong
      else if (t.find? (p.child name)).isNone then .error .missing
      else walk t (p.child name) rest

/-- The place where the walk of a path text starts. -/
def start (path : String) : Place := if isAbsolute path then ⟨.root, []⟩ else .here

/-- Refuse path texts that no walk can begin with. -/
def checkPath (path : String) : Except Refusal Unit :=
  if path.toList.contains '\x00' then .error .zeroInPath
  else if path.isEmpty then .error .missing
  else if maxPath ≤ path.utf8ByteSize then .error .tooLong
  else .ok ()

/-- Whether a path text ends with a slash and so asks for a directory. -/
def asksFolder (path : String) : Bool := path.toList.getLast? = some '/'

/-- The place of an existing file or directory. -/
def locate (t : Tree) (path : String) : Except Refusal Place := do
  checkPath path
  t.walk (start path) (names path ++ if asksFolder path then ["."] else [])

def exists_ (t : Tree) (path : String) : Bool :=
  match t.locate path with
  | .ok p => (t.find? p).isSome
  | .error _ => false

def isFolder (t : Tree) (path : String) : Bool :=
  match t.locate path with
  | .ok p => match t.find? p with
    | some .folder => true
    | _ => false
  | .error _ => false

def read (t : Tree) (path : String) : Except Refusal ByteArray := do
  let p ← t.locate path
  match t.find? p with
  | some (.file content) => return content
  | some .folder => .error .isFolder
  | some (.barred number reason) => .error (.barred number reason)
  | none => .error .missing

/-- The place that a path means for writing: in an existing directory, under a name that may be
    free. -/
def target (t : Tree) (path : String) : Except Refusal Place := do
  checkPath path
  let parts := names path
  let holder ← t.walk (start path) parts.dropLast
  match t.find? holder with
  | none => .error .missing
  | some (.file _) | some (.barred _ _) => .error .notFolder
  | some .folder =>
    match parts.getLast? with
    | none | some "." | some ".." => .error .isFolder
    | some name =>
      if asksFolder path then .error .isFolder
      else if maxName < name.utf8ByteSize then .error .tooLong
      else return holder.child name

/-- Open a file for writing and give its place; a new file is empty, an old one stays as it is. -/
def openFile (t : Tree) (path : String) : Except Refusal (Place × Tree) := do
  let p ← t.target path
  match t.find? p with
  | some .folder => .error .isFolder
  | some (.barred number reason) => .error (.barred number reason)
  | some (.file _) => return (p, t)
  | none => return (p, t.put p (.file .empty))

def write (t : Tree) (path : String) (content : ByteArray) : Except Refusal Tree := do
  let (p, t) ← t.openFile path
  return t.put p (.file content)

/-- Make a directory at a path whose parent exists. -/
def makeFolder (t : Tree) (path : String) : Except Refusal Tree := do
  checkPath path
  let parts := names path
  let holder ← t.walk (start path) parts.dropLast
  match t.find? holder with
  | none => .error .missing
  | some (.file _) | some (.barred _ _) => .error .notFolder
  | some .folder =>
    match parts.getLast? with
    | none | some "." | some ".." => .error .taken
    | some name =>
      if maxName < name.utf8ByteSize then .error .tooLong
      else if (t.find? (holder.child name)).isSome then .error .taken
      else return t.put (holder.child name) .folder

end Tree

end CertMint.Files
