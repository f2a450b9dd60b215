import CertMint.Keyed

/-! # Settings documents

The content of a settings file: sections of options with their values as written, and one section
whose options stand in wherever another section lacks them.
-/

namespace CertMint.Ini

/-- Options and their values, in order. -/
abbrev Options : Type := List (String × String)

/-- The content of a settings file. -/
structure Document where
  /-- The options that every section has unless it sets them itself. -/
  defaults : Options
  sections : List (String × Options)
  deriving Repr, DecidableEq

namespace Document

/-- A document with nothing in it. -/
def empty : Document := ⟨[], []⟩

/-- The options of a section together with the defaults that it does not set. -/
def optionsOf (doc : Document) (own : Options) : Options := Keyed.putAll own doc.defaults

end Document

/-- The name of the section whose options stand in for others. -/
def defaultSection : String := "DEFAULT"

end CertMint.Ini
