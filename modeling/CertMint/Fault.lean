import CertMint.Datum
import CertMint.Text.Utf8

/-! # Faults

A fault is what stops an operation. It has a kind, a message, and possibly an earlier fault: one that it
names as its cause, or one that was being handled when it arose. Kinds form a hierarchy, and handlers name
the kinds that they stop.
-/

namespace CertMint

namespace Fault

/-- The kinds of fault. -/
inductive Kind where
  /-- A value has the right type and is wrong otherwise. -/
  | value
  | type
  | unicode
  | unicodeDecode
  | unicodeEncode
  | unicodeTranslate
  | overflow
  | zeroDivision
  | floatingPoint
  /-- An arithmetic fault of no closer kind. -/
  | arithmetic
  | key
  | index
  /-- A look-up fault of no closer kind. -/
  | lookup
  | attribute
  | unknownName
  | unboundLocal
  | assertion
  | buffer
  | endOfFile
  | importing
  | moduleNotFound
  | memory
  /-- A fault of no closer kind while running. -/
  | runtime
  | notImplemented
  | recursion
  | stopIteration
  | stopAsyncIteration
  /-- The system refused, for a reason of no closer kind. -/
  | system
  | blocking
  | childProcess
  /-- A connection failed, for a reason of no closer kind. -/
  | connection
  | brokenPipe
  | connectionAborted
  | connectionRefused
  | connectionReset
  | fileExists
  | fileNotFound
  | interrupted
  | isDirectory
  | notDirectory
  | permission
  | processLookup
  | timeout
  /-- A fault of no closer kind. -/
  | general
  | keyboardInterrupt
  | systemExit
  | generatorExit
  | base
  | unsupportedAlgorithm
  | invalidSignature
  | duplicateExtension
  /-- An operation of the cryptographic engine failed; `operation` says which. -/
  | operationFailed (operation : Datum)
  | interpolationSyntax
  | interpolationMissing
  | interpolationDepth
  | parsing
  /-- A closer kind of another one, with the place of its definition and a name. -/
  | derived (k : Kind) (place name : String)
  deriving Inhabited

namespace Kind

def label : Kind → String
  | .value => "ValueError"
  | .type => "TypeError"
  | .unicode => "UnicodeError"
  | .unicodeDecode => "UnicodeDecodeError"
  | .unicodeEncode => "UnicodeEncodeError"
  | .unicodeTranslate => "UnicodeTranslateError"
  | .overflow => "OverflowError"
  | .zeroDivision => "ZeroDivisionError"
  | .floatingPoint => "FloatingPointError"
  | .arithmetic => "ArithmeticError"
  | .key => "KeyError"
  | .index => "IndexError"
  | .lookup => "LookupError"
  | .attribute => "AttributeError"
  | .unknownName => "NameError"
  | .unboundLocal => "UnboundLocalError"
  | .assertion => "AssertionError"
  | .buffer => "BufferError"
  | .endOfFile => "EOFError"
  | .importing => "ImportError"
  | .moduleNotFound => "ModuleNotFoundError"
  | .memory => "MemoryError"
  | .runtime => "RuntimeError"
  | .notImplemented => "NotImplementedError"
  | .recursion => "RecursionError"
  | .stopIteration => "StopIteration"
  | .stopAsyncIteration => "StopAsyncIteration"
  | .system => "OSError"
  | .blocking => "BlockingIOError"
  | .childProcess => "ChildProcessError"
  | .connection => "ConnectionError"
  | .brokenPipe => "BrokenPipeError"
  | .connectionAborted => "ConnectionAbortedError"
  | .connectionRefused => "ConnectionRefusedError"
  | .connectionReset => "ConnectionResetError"
  | .fileExists => "FileExistsError"
  | .fileNotFound => "FileNotFoundError"
  | .interrupted => "InterruptedError"
  | .isDirectory => "IsADirectoryError"
  | .notDirectory => "NotADirectoryError"
  | .permission => "PermissionError"
  | .processLookup => "ProcessLookupError"
  | .timeout => "TimeoutError"
  | .general => "Exception"
  | .keyboardInterrupt => "KeyboardInterrupt"
  | .systemExit => "SystemExit"
  | .generatorExit => "GeneratorExit"
  | .base => "BaseException"
  | .unsupportedAlgorithm => "UnsupportedAlgorithm"
  | .invalidSignature => "InvalidSignature"
  | .duplicateExtension => "DuplicateExtension"
  | .operationFailed _ => "CryptoOperationFailed"
  | .interpolationSyntax => "InterpolationSyntaxError"
  | .interpolationMissing => "InterpolationMissingOptionError"
  | .interpolationDepth => "InterpolationDepthError"
  | .parsing => "ParsingError"
  | .derived _ _ name => name

/-- The name of a kind as reports with a trace give it, with the place of its definition before it. -/
def fullLabel (k : Kind) : String :=
  match k with
  | .unsupportedAlgorithm | .invalidSignature => "cryptography.exceptions." ++ k.label
  | .duplicateExtension => "cryptography.x509.extensions." ++ k.label
  | .operationFailed _ => "certfixtures.security.exceptions." ++ k.label
  | .interpolationSyntax | .interpolationMissing | .interpolationDepth | .parsing =>
    "configparser." ++ k.label
  | .derived _ place name => place ++ name
  | k => k.label

/-- Kinds that a request to end the program or a generator has; a handler of faults does not stop
    them. -/
def isExit : Kind → Bool
  | .keyboardInterrupt | .systemExit | .generatorExit | .base => true
  | .derived k _ _ => k.isExit
  | _ => false

/-- Whether a kind is that of a wrong value or a closer kind of it. -/
def isValue : Kind → Bool
  | .value | .unicode | .unicodeDecode | .unicodeEncode | .unicodeTranslate => true
  | .derived k _ _ => k.isValue
  | _ => false

/-- Whether a kind is that of a wrong type. -/
def isType : Kind → Bool
  | .type => true
  | .derived k _ _ => k.isType
  | _ => false

/-- Whether a kind is that of an unsupported algorithm. -/
def isUnsupported : Kind → Bool
  | .unsupportedAlgorithm => true
  | .derived k _ _ => k.isUnsupported
  | _ => false

/-- Whether a kind is that of a module that cannot be loaded. -/
def isImporting : Kind → Bool
  | .importing | .moduleNotFound => true
  | .derived k _ _ => k.isImporting
  | _ => false

/-- Whether a kind is that of a refusal by the system. -/
def isSystem : Kind → Bool
  | .system | .blocking | .childProcess | .connection | .brokenPipe | .connectionAborted
  | .connectionRefused | .connectionReset | .fileExists | .fileNotFound | .interrupted
  | .isDirectory | .notDirectory | .permission | .processLookup | .timeout => true
  | .derived k _ _ => k.isSystem
  | _ => false

/-- Whether a kind is that of a file that is not there. -/
def isFileNotFound : Kind → Bool
  | .fileNotFound => true
  | .derived k _ _ => k.isFileNotFound
  | _ => false

/-- Whether a kind is that of a failed operation of the engine. -/
def isOperationFailed : Kind → Bool
  | .operationFailed _ => true
  | .derived k _ _ => k.isOperationFailed
  | _ => false

/-- The kind of a refusal by the system with a number. -/
def ofNumber : Int → Kind
  | 1 | 13 => .permission
  | 2 => .fileNotFound
  | 3 => .processLookup
  | 4 => .interrupted
  | 10 => .childProcess
  | 11 | 114 | 115 => .blocking
  | 17 => .fileExists
  | 20 => .notDirectory
  | 21 => .isDirectory
  | 32 | 108 => .brokenPipe
  | 103 => .connectionAborted
  | 104 => .connectionReset
  | 110 => .timeout
  | 111 => .connectionRefused
  | _ => .system

end Kind

end Fault

/-- What stops an operation. -/
inductive Fault where
  | of (kind : Fault.Kind) (message : String)
  /-- A fault that names another as its cause; `thrown` says whether that one stopped anything, or was
      only made in order to be named. -/
  | because (kind : Fault.Kind) (message : String) (cause : Fault) (thrown : Bool)
  /-- A fault that arose while another was being handled; `thrown` says whether that one stopped
      anything, or was only made in order to be named. -/
  | during (kind : Fault.Kind) (message : String) (earlier : Fault) (thrown : Bool)
  deriving Inhabited

namespace Fault

def kind : Fault → Kind
  | .of k _ | .because k _ _ _ | .during k _ _ _ => k

def message : Fault → String
  | .of _ m | .because _ m _ _ | .during _ m _ _ => m

def cause? : Fault → Option Fault
  | .because _ _ cause _ => some cause
  | _ => none

/-- The fault with another one as its cause, which stopped what the fault reports. -/
def causedBy (f cause : Fault) : Fault := .because f.kind f.message cause true

/-- The line that reports a fault: its kind and, unless empty, its message. -/
def line (f : Fault) : String :=
  if f.message.isEmpty then f.kind.fullLabel ++ "\n"
  else f.kind.fullLabel ++ ": " ++ f.message ++ "\n"

/-- What stands between a cause and the fault that names it. -/
def causeNote : String :=
  "\nThe above exception was the direct cause of the following exception:\n\n"

/-- What stands between a fault and one that arose while it was handled. -/
def earlierNote : String :=
  "\nDuring handling of the above exception, another exception occurred:\n\n"

/-- What stands over a fault that stopped something. -/
def heading (thrown : Bool) : List String :=
  if thrown then ["Traceback (most recent call last):\n"] else []

/-- The report of a fault and of those before it, oldest first. -/
def report (thrown : Bool) : Fault → List String
  | .of k m => heading thrown ++ [line (.of k m)]
  | .because k m cause before =>
    report before cause ++ causeNote :: heading thrown ++ [line (.of k m)]
  | .during k m earlier before =>
    report before earlier ++ earlierNote :: heading thrown ++ [line (.of k m)]

def operationFailed (operation message : String) : Fault :=
  .of (.operationFailed (.text operation)) (operation ++ " failed: " ++ message)

/-- A refusal by the system, with its number, a reason and a path. -/
def ofSystem (number : Int) (reason path : String) : Fault :=
  .of (Kind.ofNumber number) ("[Errno " ++ toString number ++ "] " ++ reason ++ ": " ++ Text.quoted path)

/-- The fault of an integer that is too long to be written. -/
def integerTooLong : Fault :=
  of .value ("Exceeds the limit (4300 digits) for integer string conversion; "
    ++ "use sys.set_int_max_str_digits() to increase the limit")

/-- The failure of an operation of the engine because of a fault whose message is quoted. -/
def asFailure (operation : String) (f : Fault) : Fault :=
  (operationFailed operation f.message).causedBy f

end Fault

def Datum.plain (d : Datum) : Except Fault String :=
  match d.plain? with
  | some s => .ok s
  | Option.none => .error .integerTooLong

def Datum.shown (d : Datum) : Except Fault String :=
  match d.shown? with
  | some s => .ok s
  | Option.none => .error .integerTooLong

end CertMint
