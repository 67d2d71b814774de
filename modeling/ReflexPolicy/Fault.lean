import ReflexPolicy.Codex.Problem

/-!
# Faults

A `Fault` is any way in which an operation of the library fails.  A rejected input and an invalid
codex are the documented ways; the others arise from values that an operation cannot use.
`Fault.message` words every fault.
-/

namespace ReflexPolicy

/-- An operation met a value of the wrong kind. -/
inductive Mismatch where
  | unordered (relation left right : String)
  | noMinus (kind : String)
  | noKey (kind : String)
  | noSlice (kind : String)
  | noPlaces (kind : String)
  | noJson (kind : String)
  | noJsonKey (kind : String)
  | unknownOption (name : Text)
  | optionTwice (operation : String) (name : Text)
  | optionsNotNamed
  deriving DecidableEq

/-- The wording of a mismatch. -/
def Mismatch.message : Mismatch → Text
  | unordered relation left right =>
    "'" ++ relation ++ "' not supported between instances of '" ++ left ++ "' and '" ++ right
      ++ "'"
  | noMinus kind => "bad operand type for unary -: '" ++ kind ++ "'"
  | noKey kind => "unhashable type: '" ++ kind ++ "'"
  | noSlice kind => "'" ++ kind ++ "' object is not subscriptable"
  | noPlaces kind => "unsupported format string passed to " ++ kind ++ ".__format__"
  | noJson kind => "Object of type " ++ kind ++ " is not JSON serializable"
  | noJsonKey kind => "keys must be str, int, float, bool or None, not " ++ kind
  | unknownOption name =>
    "build_handshake() got an unexpected keyword argument '" ++ name ++ "'"
  | optionTwice operation name =>
    operation ++ "() got multiple values for argument '" ++ name ++ "'"
  | optionsNotNamed => "keywords must be strings"

/-- An operation met a value of the right kind that it cannot use. -/
inductive Misuse where
  | placesOfText
  | noFailureKind (given : Value)
  | negativeWait (given : Value)
  | calendar (fault : CalendarFault)
  | tooManyDigits (count : Nat)
  | tooLong
  | noCodePoint
  | nulInPath
  | noDigits (base : Nat)
  | notJson

/-- The wording of a fault in the numbers of a date. -/
def CalendarFault.message : CalendarFault → String
  | year given => "year " ++ toString given ++ " is out of range"
  | month => "month must be in 1..12"
  | day => "day is out of range for month"
  | hour => "hour must be in 0..23"
  | minute => "minute must be in 0..59"
  | second => "second must be in 0..59"
  | offset given => "offset must be a timedelta strictly between -timedelta(hours=24) and "
    ++ "timedelta(hours=24), not " ++ Calendar.spanLiteral given ++ "."

/-- The wording of a misuse. -/
def Misuse.message : Misuse → String
  | placesOfText => "Unknown format code 'f' for object of type 'str'"
  | noFailureKind v => v.literal ++ " is not a valid FailureKind"
  | negativeWait v => "wait must be non-negative, got " ++ v.literal
  | calendar fault => fault.message
  | tooManyDigits count =>
    "Exceeds the limit (4300 digits) for integer string conversion: value has "
      ++ toString count ++ " digits; use sys.set_int_max_str_digits() to increase the limit"
  | tooLong =>
    "Exceeds the limit (4300 digits) for integer string conversion; "
      ++ "use sys.set_int_max_str_digits() to increase the limit"
  | noCodePoint => "chr() arg not in range(0x110000)"
  | nulInPath => "embedded null byte"
  | noDigits base =>
    "invalid literal for int() with base " ++ toString base ++ ": ''"
  | notJson => "<invalid JSON>"

/-- Why a run of bytes is no text. -/
inductive Undecodable where
  | badStart (byte position : Nat)
  | badContinuation (bytes : List Nat) (position : Nat)
  | endsEarly (bytes : List Nat) (position : Nat)
  deriving DecidableEq

namespace Undecodable

/-- The bytes that could not be decoded, and where they stand. -/
def span (bytes : List Nat) (position : Nat) : String :=
  match bytes with
  | [b] => "byte 0x" ++ String.ofList (Text.hex 2 b) ++ " in position " ++ toString position
  | _ => "bytes in position " ++ toString position ++ "-"
    ++ toString (position + bytes.length - 1)

/-- The wording of a failed decoding. -/
def message : Undecodable → String
  | badStart byte position => "'utf-8' codec can't decode " ++ span [byte] position
    ++ ": invalid start byte"
  | badContinuation bytes position => "'utf-8' codec can't decode " ++ span bytes position
    ++ ": invalid continuation byte"
  | endsEarly bytes position => "'utf-8' codec can't decode " ++ span bytes position
    ++ ": unexpected end of data"

end Undecodable

/-- Why nothing can be read at a path. -/
inductive FileFault where
  | missing
  | isDirectory
  | notDirectory
  | notPermitted
  | nameTooLong
  deriving DecidableEq

/-- The wording of a file fault at a path. -/
def FileFault.message (path : String) : FileFault → String
  | missing => "[Errno 2] No such file or directory: " ++ quote path
  | isDirectory => "[Errno 21] Is a directory: " ++ quote path
  | notDirectory => "[Errno 20] Not a directory: " ++ quote path
  | notPermitted => "[Errno 13] Permission denied: " ++ quote path
  | nameTooLong => "[Errno 36] File name too long: " ++ quote path

/-- A way in which an operation fails. -/
inductive Fault where
  | rejected (cause : Rejection)
  | invalidCodex (problems : List Problem)
  | tooLarge
  | escapeTooLarge
  | mismatch (cause : Mismatch)
  | misuse (cause : Misuse)
  | undecodable (cause : Undecodable)
  | unreadable (path : String) (cause : FileFault)

namespace Fault

/-- The wording of a fault. -/
def message : Fault → Text
  | rejected cause => cause.message
  | invalidCodex problems => Problem.summary problems
  | tooLarge => "int too large to convert to float"
  | escapeTooLarge => "Python int too large to convert to C int"
  | mismatch cause => cause.message
  | misuse cause => cause.message
  | undecodable cause => cause.message
  | unreadable path cause => cause.message path

/-- The fault that a caller meets: a rejection that cannot be worded ends in the fault of writing
what it is about. -/
def reported : Fault → Fault
  | rejected cause => if cause.isWritable then rejected cause else misuse .tooLong
  | f => f

/-- A rejection as a fault. -/
def ofRejection {α : Type} : Except Rejection α → Except Fault α
  | .ok a => .ok a
  | .error r => .error (.rejected r)

end Fault

end ReflexPolicy
