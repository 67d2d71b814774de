import ReflexPolicy.Value.Basic
import ReflexPolicy.Text.Digit

/-!
# Reading JSON

`Json.read` reads a JSON text.  Besides the standard it takes the names `NaN`, `Infinity` and
`-Infinity` for numbers, keeps whole numbers of any size up to a number of digits, and lets the
last of several entries with one key win, at the place of the first.  Half of a surrogate pair
that stands alone is kept as it is.
-/

namespace ReflexPolicy.Json

/-- Why a text is not read as JSON. -/
inductive ReadFault where
  /-- The text is not JSON. -/
  | malformed
  /-- A whole number has too many digits. -/
  | tooManyDigits (count : Nat)
  deriving DecidableEq

/-- A blank of JSON. -/
def isSpace (c : Char) : Bool := c == ' ' || c == '\t' || c == '\n' || c == '\r'

/-- The text from its first character that is not blank. -/
def skipSpaces (cs : List Char) : List Char := cs.dropWhile isSpace

/-! ### Texts -/

/-- The value of a hexadecimal digit. -/
def hexValue? (c : Char) : Option Nat :=
  if '0' ≤ c && c ≤ '9' then some (c.toNat - '0'.toNat)
  else if 'a' ≤ c && c ≤ 'f' then some (c.toNat - 'a'.toNat + 10)
  else if 'A' ≤ c && c ≤ 'F' then some (c.toNat - 'A'.toNat + 10)
  else none

/-- The value of four hexadecimal digits. -/
def hexUnit? (a b c d : Char) : Option Nat := do
  let w ← hexValue? a
  let x ← hexValue? b
  let y ← hexValue? c
  let z ← hexValue? d
  return ((w * 16 + x) * 16 + y) * 16 + z

/-- The character that a letter after a backslash stands for. -/
def simpleEscape? (c : Char) : Option Char :=
  if c == '"' || c == '\\' || c == '/' then some c
  else if c == 'b' then some '\x08'
  else if c == 'f' then some '\x0c'
  else if c == 'n' then some '\n'
  else if c == 'r' then some '\r'
  else if c == 't' then some '\t'
  else none

/-- The unit is the first of a surrogate pair. -/
def isHigh (n : Nat) : Bool := 0xD800 ≤ n && n < 0xDC00

/-- The unit is the second of a surrogate pair. -/
def isLow (n : Nat) : Bool := 0xDC00 ≤ n && n < 0xE000

/-- The units in a text are turned into letters: two that form a pair into one. -/
def joinUnits : List Nat → List Letter
  | [] => []
  | [n] => [Letter.ofCode n]
  | m :: n :: rest =>
    if isHigh m && isLow n then
      .char (Char.ofNat (0x10000 + (m - 0xD800) * 0x400 + (n - 0xDC00))) :: joinUnits rest
    else Letter.ofCode m :: joinUnits (n :: rest)

/-- The pending units after the letters before them; both and the result are reversed. -/
def flush (units : List Nat) (acc : List Letter) : List Letter :=
  (joinUnits units.reverse).reverse ++ acc

/-- The rest of a text after its opening quote, and what follows the closing one.  `units` are
the escaped units read last, `acc` the letters before them, both reversed. -/
def readText (units : List Nat) (acc : List Letter) :
    List Char → Except ReadFault (Text × List Char)
  | '"' :: rest => .ok (⟨(flush units acc).reverse⟩, rest)
  | '\\' :: 'u' :: a :: b :: c :: d :: rest =>
    match hexUnit? a b c d with
    | some n => readText (n :: units) acc rest
    | none => .error .malformed
  | '\\' :: c :: rest =>
    match simpleEscape? c with
    | some e => readText [] (.char e :: flush units acc) rest
    | none => .error .malformed
  | c :: rest =>
    if c.toNat < 0x20 || c == '\\' then .error .malformed
    else readText [] (.char c :: flush units acc) rest
  | [] => .error .malformed

/-! ### Numbers -/

/-- A run of ASCII digits at the head of a text, and the rest. -/
def digits (cs : List Char) : List Char × List Char :=
  (cs.takeWhile Text.isAsciiDigit, cs.dropWhile Text.isAsciiDigit)

/-- The digits after a point, if there are any, and the rest. -/
def fraction (cs : List Char) : List Char × List Char :=
  match cs with
  | '.' :: rest => match digits rest with
    | ([], _) => ([], cs)
    | found => found
  | _ => ([], cs)

/-- The exponent, if there is one, and the rest. -/
def exponent? (cs : List Char) : Option (Int × List Char) :=
  match cs with
  | c :: rest =>
    if c == 'e' || c == 'E' then
      let (negative, body) := match rest with
        | '-' :: r => (true, r)
        | '+' :: r => (false, r)
        | r => (false, r)
      match digits body with
      | ([], _) => none
      | (ds, after) =>
        let n := Text.natOfDigits ds
        some (if negative then -(n : Int) else n, after)
    else none
  | [] => none

/-- The digits before the point: a single zero, or a run that does not begin with zero. -/
def leadingDigits? (cs : List Char) : Option (List Char × List Char) :=
  match cs with
  | '0' :: rest => some (['0'], rest)
  | _ => match digits cs with
    | ([], _) => none
    | found => some found

/-- A number of the given sign, and the rest of the text. -/
def readNumber (negative : Bool) (cs : List Char) :
    Except ReadFault (Number × List Char) :=
  match leadingDigits? cs with
  | none => .error .malformed
  | some (lead, rest) =>
    let (places, afterPlaces) := fraction rest
    match places, exponent? afterPlaces with
    | [], none =>
      if Number.digitLimit < lead.length then .error (.tooManyDigits lead.length)
      else
        let n := Text.natOfDigits lead
        .ok (.whole (if negative then -(n : Int) else n), rest)
    | _, none =>
      .ok (.float (Decimal.toBinary64 negative
        ⟨Text.natOfDigits (lead ++ places), -(places.length : Int)⟩), afterPlaces)
    | _, some (e, after) =>
      .ok (.float (Decimal.toBinary64 negative
        ⟨Text.natOfDigits (lead ++ places), e - places.length⟩), after)

/-! ### Values -/

/-- The names of values, and the values. -/
def names : List (List Char × Value) :=
  [("null".toList, .null), ("true".toList, .bool true), ("false".toList, .bool false),
    ("NaN".toList, .float .nan), ("Infinity".toList, .float (.infinite false)),
    ("-Infinity".toList, .float (.infinite true))]

/-- The text after a word that it begins with. -/
def afterWord? : List Char → List Char → Option (List Char)
  | [], cs => some cs
  | w :: ws, c :: cs => if w == c then afterWord? ws cs else none
  | _ :: _, [] => none

/-- A value that has a name, and the rest of the text. -/
def readName (cs : List Char) : Option (Value × List Char) :=
  names.findSome? fun n => (afterWord? n.1 cs).map fun rest => (n.2, rest)

/-- A number or a named value, and the rest of the text. -/
def readPlain (cs : List Char) : Except ReadFault (Value × List Char) :=
  match readName cs with
  | some found => .ok found
  | none => match cs with
    | '-' :: rest => (readNumber true rest).map fun found => (.number found.1, found.2)
    | _ => (readNumber false cs).map fun found => (.number found.1, found.2)

mutual

/-- A value at the head of a text, and the rest.  The fuel bounds the depth and the number of
parts; the length of the text is enough. -/
def readValue : Nat → List Char → Except ReadFault (Value × List Char)
  | 0, _ => .error .malformed
  | fuel + 1, cs => match cs with
    | '"' :: rest => (readText [] [] rest).map fun found => (.text found.1, found.2)
    | '[' :: rest => match skipSpaces rest with
      | ']' :: after => .ok (.list [], after)
      | inside => (readItems fuel [] inside).map fun found => (.list found.1, found.2)
    | '\x7b' :: rest => match skipSpaces rest with
      | '\x7d' :: after => .ok (.map [], after)
      | inside => (readMembers fuel [] inside).map fun found =>
        (.map (Entries.ofList found.1), found.2)
    | _ => readPlain cs

/-- The items of a list up to its closing bracket; `before` holds those read, reversed. -/
def readItems : Nat → List Value → List Char → Except ReadFault (List Value × List Char)
  | 0, _, _ => .error .malformed
  | fuel + 1, before, cs =>
    match readValue fuel cs with
    | .error e => .error e
    | .ok (v, rest) => match skipSpaces rest with
      | ',' :: more => readItems fuel (v :: before) (skipSpaces more)
      | ']' :: after => .ok ((v :: before).reverse, after)
      | _ => .error .malformed

/-- The entries of a mapping up to its closing brace; `before` holds those read, reversed. -/
def readMembers :
    Nat → List (Scalar × Value) → List Char → Except ReadFault (List (Scalar × Value) × List Char)
  | 0, _, _ => .error .malformed
  | fuel + 1, before, cs =>
    match cs with
    | '"' :: inside => match readText [] [] inside with
      | .error e => .error e
      | .ok (key, rest) => match skipSpaces rest with
        | ':' :: body => match readValue fuel (skipSpaces body) with
          | .error e => .error e
          | .ok (v, after) =>
            let entry := (Scalar.text key, v)
            match skipSpaces after with
            | ',' :: more => readMembers fuel (entry :: before) (skipSpaces more)
            | '\x7d' :: last => .ok ((entry :: before).reverse, last)
            | _ => .error .malformed
        | _ => .error .malformed
    | _ => .error .malformed

end

/-- The value that a JSON text writes. -/
def read (cs : List Char) : Except ReadFault Value :=
  match readValue (2 * cs.length + 2) (skipSpaces cs) with
  | .error e => .error e
  | .ok (v, rest) => if (skipSpaces rest).isEmpty then .ok v else .error .malformed

end ReflexPolicy.Json
