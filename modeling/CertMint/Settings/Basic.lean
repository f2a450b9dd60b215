import CertMint.Fault

/-! # Settings

The settings of key generation, signing, validity windows and logging. A field may be given any
datum; making settings checks the fields in a fixed order and refuses at the first that is out of its
range. Fields that are changed later are not checked again.
-/

namespace CertMint

/-- The fields of settings. -/
inductive Settings.Field where
  | keySize
  | publicExponent
  | signatureHash
  /-- Days from the start of a valid window to now. -/
  | validNotBefore
  /-- Days from now to the end of a valid window. -/
  | validNotAfter
  /-- Days from the start of an expired window to now. -/
  | expiredNotBefore
  /-- Days from the end of an expired window to now. -/
  | expiredNotAfter
  | logLevel
  | logFile
  deriving DecidableEq, Repr

/-- The settings. -/
structure Settings where
  keySize : Datum := .int 1024
  publicExponent : Datum := .int 65537
  signatureHash : Datum := .text "SHA256"
  /-- Days from the start of a valid window to now. -/
  validNotBefore : Datum := .int 30
  /-- Days from now to the end of a valid window. -/
  validNotAfter : Datum := .int 99
  /-- Days from the start of an expired window to now. -/
  expiredNotBefore : Datum := .int 40
  /-- Days from the end of an expired window to now. -/
  expiredNotAfter : Datum := .int 10
  logLevel : Datum := .text "INFO"
  logFile : Datum := .none

namespace Settings

namespace Field

def all : List Field :=
  [.keySize, .publicExponent, .signatureHash, .validNotBefore, .validNotAfter, .expiredNotBefore,
   .expiredNotAfter, .logLevel, .logFile]

def name : Field → String
  | .keySize => "key_size"
  | .publicExponent => "public_exponent"
  | .signatureHash => "signature_hash"
  | .validNotBefore => "valid_not_before_days"
  | .validNotAfter => "valid_not_after_days"
  | .expiredNotBefore => "expired_not_before_days"
  | .expiredNotAfter => "expired_not_after_days"
  | .logLevel => "log_level"
  | .logFile => "log_file_path"

def ofName? (name : String) : Option Field := all.find? (·.name == name)

end Field

def get (s : Settings) : Field → Datum
  | .keySize => s.keySize
  | .publicExponent => s.publicExponent
  | .signatureHash => s.signatureHash
  | .validNotBefore => s.validNotBefore
  | .validNotAfter => s.validNotAfter
  | .expiredNotBefore => s.expiredNotBefore
  | .expiredNotAfter => s.expiredNotAfter
  | .logLevel => s.logLevel
  | .logFile => s.logFile

/-- The settings with another datum in a field. -/
def set (s : Settings) (f : Field) (d : Datum) : Settings :=
  match f with
  | .keySize => { s with keySize := d }
  | .publicExponent => { s with publicExponent := d }
  | .signatureHash => { s with signatureHash := d }
  | .validNotBefore => { s with validNotBefore := d }
  | .validNotAfter => { s with validNotAfter := d }
  | .expiredNotBefore => { s with expiredNotBefore := d }
  | .expiredNotAfter => { s with expiredNotAfter := d }
  | .logLevel => { s with logLevel := d }
  | .logFile => { s with logFile := d }

def minimumKeySize : Int := 1024

def publicExponents : List Int := [3, 65537]

/-- The names of the hashes that settings may have. -/
def signatureHashes : List String := ["SHA224", "SHA256", "SHA384", "SHA512"]

/-- The names of the log levels that settings may have. -/
def logLevels : List String := ["DEBUG", "INFO", "WARNING", "ERROR", "CRITICAL"]

/-- What is out of range in settings. -/
inductive Flaw where
  /-- The key size is no integer or too small. -/
  | keySize
  | publicExponent
  | signatureHash
  /-- The days before a valid window are no integer or negative. -/
  | validNotBefore
  /-- The days after which a valid window ends are no integer or not positive. -/
  | validNotAfter
  /-- The days since an expired window ended are no integer or not positive. -/
  | expiredNotAfter
  /-- The days since an expired window began are no integer or not more than those since it ended. -/
  | expiredNotBefore
  | logLevel
  deriving DecidableEq, Repr

namespace Flaw

def message : Flaw → String
  | .keySize => "key_size must be an integer of at least " ++ toString minimumKeySize
  | .publicExponent => "public_exponent must be 3 or 65537"
  | .signatureHash => "signature_hash must be one of: " ++ ", ".intercalate signatureHashes
  | .validNotBefore => "valid_not_before_days must be a non-negative integer"
  | .validNotAfter => "valid_not_after_days must be a positive integer"
  | .expiredNotAfter => "expired_not_after_days must be a positive integer"
  | .expiredNotBefore => "expired_not_before_days must be greater than expired_not_after_days"
  | .logLevel => "log_level must be one of: " ++ ", ".intercalate logLevels

def fault (f : Flaw) : Fault := .of .value f.message

end Flaw

/-- Whether a datum is an integer greater than a bound. -/
def isAbove (bound : Int) (d : Datum) : Bool :=
  match d.int? with
  | some i => bound < i
  | none => false

/-- Whether a datum is an integer greater than another, where both are integers. -/
def isAboveOther (other d : Datum) : Bool :=
  match other.int? with
  | some bound => isAbove bound d
  | none => false

def flaw? (s : Settings) : Option Flaw :=
  if !isAbove (minimumKeySize - 1) s.keySize then some .keySize
  else if !publicExponents.any fun e => Datum.same s.publicExponent (.int e) then
    some .publicExponent
  else if !signatureHashes.any fun h => Datum.same s.signatureHash (.text h) then
    some .signatureHash
  else if !isAbove (-1) s.validNotBefore then some .validNotBefore
  else if !isAbove 0 s.validNotAfter then some .validNotAfter
  else if !isAbove 0 s.expiredNotAfter then some .expiredNotAfter
  else if !isAboveOther s.expiredNotAfter s.expiredNotBefore then some .expiredNotBefore
  else if !logLevels.any fun l => Datum.same s.logLevel (.text l) then some .logLevel
  else none

/-- Settings that have been checked, or the fault of their first flaw. -/
def check (s : Settings) : Except Fault Settings :=
  match s.flaw? with
  | none => .ok s
  | some f => .error f.fault

/-- Settings from named values; fields without one have their defaults. -/
def ofNamed (entries : List (String × Datum)) : Except Fault Settings :=
  match entries.find? fun entry => (Field.ofName? entry.1).isNone with
  | some (name, _) => .error (.of .type
      ("GeneratorConfig.__init__() got an unexpected keyword argument '" ++ name ++ "'"))
  | none =>
    check (entries.foldl (fun s (name, d) => match Field.ofName? name with
      | some f => s.set f d
      | none => s) {})

end Settings

end CertMint
