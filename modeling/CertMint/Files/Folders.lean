import CertMint.Files.Tree

/-! # Directories with those above them

Two ways to make a directory together with the missing ones above it. Both change the tree step by
step, so that what was made before a refusal stays.
-/

namespace CertMint.Files

/-- An operation that changes a tree and may fault; its changes up to the fault stay. -/
abbrev Change (α : Type) : Type := ExceptT Fault (StateM Tree) α

namespace Change

/-- Change the tree, or fault with the refusal that the change on a path met. -/
def tryWith (path : String) (f : Tree → Except Refusal Tree) : Change Unit := do
  match f (← get) with
  | .ok t => set t
  | .error r => throw (r.fault path)

def makeFolder (path : String) : Change Unit := tryWith path (·.makeFolder path)

/-- Do nothing where a directory is at a path already, else fault. -/
def unlessFolder (path : String) (f : Fault) : Change Unit := do
  if f.kind.isSystem && (← get).isFolder path then pure () else throw f

/-- The part of a path text before its last name, and that name; a slash at the end is ignored. -/
def splitName (path : String) : String × String :=
  if (lastName path).isEmpty then (directory (directory path), lastName (directory path))
  else (directory path, lastName path)

/-- Make the directory at a path text and those before it in the text. The first argument bounds how
    many directories are made. -/
def makeFoldersWithin : Nat → String → Change Unit
  | 0, _ => pure ()
  | fuel + 1, path => do
    let (above, name) := splitName path
    if !above.isEmpty && !name.isEmpty && !(← get).exists_ above then
      try makeFoldersWithin fuel above
      catch f => match f.kind with
        | .fileExists => pure ()
        | _ => throw f
      if name = "." then return
    try makeFolder path catch f => unlessFolder path f

/-- Make the directory at a path text and those before it in the text, where they are missing. -/
def makeFolders (path : String) : Change Unit := makeFoldersWithin path.length path

/-- Make the directory with the given names, innermost first, and those above it, where they are
    missing. A directory that cannot be made for want of the one above it is tried once more after
    that one was made. -/
def makeNamed (absolute : Bool) : List String → Change Unit
  | [] =>
    let path := join absolute []
    try makeFolder path catch f => unlessFolder path f
  | name :: above => do
    let path := join absolute (name :: above).reverse
    try makeFolder path
    catch f => match f.kind with
      | .fileNotFound => do
        makeNamed absolute above
        try makeFolder path
        catch f => match f.kind with
          | .fileNotFound => throw f
          | _ => unlessFolder path f
      | _ => unlessFolder path f

/-- Make the directory that is to contain a file, where it is missing. -/
def makeHolder (path : String) : Change Unit :=
  makeNamed (isAbsolute path) ((tidyNames path).reverse.drop 1)

end Change

end CertMint.Files
