import ReflexPolicy.Value.Basic
import ReflexPolicy.Text.Quoted

/-!
# Written forms of values

`Value.literal` is the form of a value inside a message, with texts in quotes.  `Value.plain` is
the form that joins a text: a text stands as it is, and a date in its own notation.  A value is
not writable when a whole number in it has too many digits.
-/

namespace ReflexPolicy

namespace Calendar

/-- Numbers separated by commas. -/
def listed (ns : List Nat) : String := String.intercalate ", " (ns.map toString)

/-- A span of seconds: the days, which may be negative, and the seconds on top of them. -/
def spanLiteral (seconds : Int) : String :=
  let days := Int.fdiv seconds 86400
  let rest := Int.fmod seconds 86400
  let parts := (if days = 0 then [] else ["days=" ++ toString days])
    ++ (if rest = 0 then [] else ["seconds=" ++ toString rest])
  "datetime.timedelta("
    ++ (if parts.isEmpty then "0" else String.intercalate ", " parts) ++ ")"

/-- The clock of an offset. -/
def clockLiteral (offset : Int) : String :=
  if offset = 0 then "datetime.timezone.utc"
  else "datetime.timezone(" ++ spanLiteral offset ++ ")"

end Calendar

namespace Scalar

/-- The written form of a scalar in a message. -/
def literal : Scalar → String
  | null => "None"
  | bool true => "True"
  | bool false => "False"
  | number n => n.literal
  | text t => quote t
  | date d => "datetime.date(" ++ Calendar.listed d.parts ++ ")"
  | moment m =>
    let clock := match m.offset with
      | some o => ", tzinfo=" ++ Calendar.clockLiteral o
      | none => ""
    "datetime.datetime(" ++ Calendar.listed m.parts ++ clock ++ ")"

/-- The form of a scalar that joins a text. -/
def plain : Scalar → Text
  | text t => t
  | date d => Text.ofChars d.plain
  | moment m => Text.ofChars m.plain
  | s => s.literal

/-- The scalar can be written. -/
def isWritable : Scalar → Bool
  | number n => n.isWritable
  | _ => true

end Scalar

namespace Value

mutual

/-- The written form of a value in a message. -/
def literal : Value → String
  | .scalar s => s.literal
  | .list items => "[" ++ String.intercalate ", " (itemLiterals items) ++ "]"
  | .map entries => "\x7b" ++ String.intercalate ", " (entryLiterals entries) ++ "\x7d"

/-- The written forms of the items of a list. -/
def itemLiterals : List Value → List String
  | [] => []
  | v :: vs => literal v :: itemLiterals vs

/-- The written forms of the entries of a mapping. -/
def entryLiterals : List (Scalar × Value) → List String
  | [] => []
  | (k, v) :: rest => (k.literal ++ ": " ++ literal v) :: entryLiterals rest

end

mutual

/-- The value can be written. -/
def isWritable : Value → Bool
  | .scalar s => s.isWritable
  | .list items => areWritable items
  | .map entries => entriesAreWritable entries

/-- The values can be written. -/
def areWritable : List Value → Bool
  | [] => true
  | v :: vs => isWritable v && areWritable vs

/-- The entries can be written. -/
def entriesAreWritable : List (Scalar × Value) → Bool
  | [] => true
  | (k, v) :: rest => k.isWritable && isWritable v && entriesAreWritable rest

end

/-- The form of a value that joins a text. -/
def plain : Value → Text
  | .scalar s => s.plain
  | v => v.literal

end Value

end ReflexPolicy
