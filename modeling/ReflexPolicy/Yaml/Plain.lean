import ReflexPolicy.Fault
import ReflexPolicy.Json.Reader

/-!
# The kinds of plain scalars

A plain scalar is null, a truth value, a number, a date or a moment if it is spelled like one,
and a text otherwise.  `Plain.value` decides which.  Truth values have many spellings, whole
numbers are written to base ten, two, eight, sixteen and sixty, and a number with an exponent has
a point.
-/

namespace ReflexPolicy.Yaml.Plain

/-! ### Words -/

/-- The spellings of null. -/
def nullWords : List String := ["", "~", "null", "Null", "NULL"]

/-- The spellings of the true value. -/
def trueWords : List String :=
  ["yes", "Yes", "YES", "true", "True", "TRUE", "on", "On", "ON"]

/-- The spellings of the false value. -/
def falseWords : List String :=
  ["no", "No", "NO", "false", "False", "FALSE", "off", "Off", "OFF"]

/-- The words that stand for no value at all. -/
def reservedWords : List String := ["=", "<<"]

/-- The characters spell one of some words. -/
def isOneOf (words : List String) (cs : List Char) : Bool := words.any fun w => w.toList == cs

/-- The value of a word. -/
def word? (cs : List Char) : Option Value :=
  if isOneOf nullWords cs then some .null
  else if isOneOf trueWords cs then some (.bool true)
  else if isOneOf falseWords cs then some (.bool false)
  else none

/-! ### Whole numbers -/

/-- The sign of a number, and the characters after it. -/
def sign (cs : List Char) : Bool × List Char :=
  match cs with
  | '-' :: rest => (true, rest)
  | '+' :: rest => (false, rest)
  | _ => (false, cs)

/-- A number with its sign. -/
def signedInt (negative : Bool) (n : Nat) : Int := if negative then -(n : Int) else n

/-- A digit or the low line that may stand between digits. -/
def isDigitOrLine (c : Char) : Bool := Text.isAsciiDigit c || c == '_'

/-- The digits without the low lines between them. -/
def bare (cs : List Char) : List Char := cs.filter (· != '_')

/-- The number that digits write to some base. -/
def ofBase (base : Nat) (cs : List Char) : Nat :=
  (bare cs).foldl (fun n c => base * n + (Json.hexValue? c).getD 0) 0

/-- Digits of a class, at least one. -/
def allOf (test : Char → Bool) (cs : List Char) : Bool := !cs.isEmpty && cs.all test

/-- A digit to base two, or a low line. -/
def isBinary (c : Char) : Bool := c == '0' || c == '1' || c == '_'

/-- A digit to base eight, or a low line. -/
def isOctal (c : Char) : Bool := ('0' ≤ c && c ≤ '7') || c == '_'

/-- A digit to base sixteen, or a low line. -/
def isHexadecimal (c : Char) : Bool := (Json.hexValue? c).isSome || c == '_'

/-- Digits and low lines that begin with a digit. -/
def isDigitRun (cs : List Char) : Bool :=
  cs.head?.any Text.isAsciiDigit && cs.all isDigitOrLine

/-- The characters between colons. -/
def colonParts : List Char → List (List Char)
  | [] => [[]]
  | c :: cs =>
    if c == ':' then [] :: colonParts cs
    else match colonParts cs with
      | [] => [[c]]
      | p :: ps => (c :: p) :: ps

/-- A number below sixty, of one digit or two. -/
def isSixtieth (cs : List Char) : Bool :=
  match cs with
  | [a] => Text.isAsciiDigit a
  | [a, b] => ('0' ≤ a && a ≤ '5') && Text.isAsciiDigit b
  | _ => false

/-- The number that parts write to base sixty. -/
def ofSixtieths (parts : List (List Char)) : Nat :=
  parts.foldl (fun n p => 60 * n + Text.natOfDigits (bare p)) 0

/-- The whole number that digits without a sign write. -/
def wholeBody? (cs : List Char) : Option Nat :=
  match cs with
  | ['0'] => some 0
  | '0' :: 'b' :: rest => if allOf isBinary rest then some (ofBase 2 rest) else none
  | '0' :: 'x' :: rest => if allOf isHexadecimal rest then some (ofBase 16 rest) else none
  | '0' :: rest => if allOf isOctal rest then some (ofBase 8 rest) else none
  | _ =>
    match colonParts cs with
    | [ds] => if isDigitRun ds then some (Text.natOfDigits (bare ds)) else none
    | ds :: parts =>
      if isDigitRun ds && parts.all isSixtieth then some (ofSixtieths (ds :: parts)) else none
    | [] => none

/-- The whole number that characters write. -/
def whole? (cs : List Char) : Option Int :=
  let (negative, body) := sign cs
  (wholeBody? body).map (signedInt negative)

/-- The number of digits of a whole number to base ten, or of the first part of one to base
sixty. -/
def decimalLength (cs : List Char) : Nat :=
  let first := (sign cs).2.takeWhile (· != ':')
  if isDigitRun first && first.head? != some '0' then (bare first).length else 0

/-- The base of a whole number that has low lines and no digits behind its mark. -/
def baseWithoutDigits? (cs : List Char) : Option Nat :=
  match (sign cs).2 with
  | '0' :: 'b' :: rest => if allOf (· == '_') rest then some 2 else none
  | '0' :: 'x' :: rest => if allOf (· == '_') rest then some 16 else none
  | _ => none

/-- The whole number that characters write, as a value. -/
def wholeValue (cs : List Char) (n : Int) : Except Fault Value :=
  match baseWithoutDigits? cs with
  | some base => .error (.misuse (.noDigits base))
  | none =>
    if Number.digitLimit < decimalLength cs then
      .error (.misuse (.tooManyDigits (decimalLength cs)))
    else .ok (.int n)

/-! ### Numbers with a point -/

/-- The exponent with its sign, if all of the characters are one. -/
def exponent? (cs : List Char) : Option Int :=
  match cs with
  | e :: s :: ds =>
    if (e == 'e' || e == 'E') && (s == '+' || s == '-') && allOf Text.isAsciiDigit ds then
      some (signedInt (s == '-') (Text.natOfDigits ds))
    else none
  | _ => none

/-- The number of digits before a point and the characters after it. -/
def pointed? (negative : Bool) (lead : List Char) (after : List Char) : Option Binary64 :=
  let places := after.takeWhile isDigitOrLine
  let rest := after.dropWhile isDigitOrLine
  let digits := bare places
  let number (e : Int) : Binary64 := Decimal.toBinary64 negative
    ⟨Text.natOfDigits (bare lead ++ digits), e - digits.length⟩
  if rest.isEmpty then some (number 0) else (exponent? rest).map number

/-- A power of the base, rounded; one that is beyond the format is a fault. -/
def roundedPower (power : Nat) : Except Fault Binary64 :=
  (Binary64.ofInt? power).elim (.error .tooLarge) .ok

/-- The sum of parts to base sixty, the last one first.  Every power of the base is rounded before
it is multiplied, whatever it is multiplied with. -/
def sumOfSixtieths : Nat → Binary64 → List Binary64 → Except Fault Binary64
  | _, sum, [] => .ok sum
  | power, sum, x :: xs => do
    let b ← roundedPower power
    sumOfSixtieths (60 * power) (sum.add (x.mul b)) xs

/-- The number of parts to base sixty, the last of which has a point. -/
def sixtiethsWithPoint? (cs : List Char) : Option (Except Fault Binary64) :=
  let lead := cs.takeWhile (· != '.')
  match cs.dropWhile (· != '.'), colonParts lead with
  | '.' :: places, ds :: p :: ps =>
    if isDigitRun ds && (p :: ps).all isSixtieth && places.all isDigitOrLine then
      match (ds :: p :: ps).reverse with
      | last :: others =>
        let whole (part : List Char) : Binary64 :=
          Decimal.toBinary64 false ⟨Text.natOfDigits (bare part), 0⟩
        (pointed? false last places).map fun x =>
          sumOfSixtieths 1 0 (x :: others.map whole)
      | [] => none
    else none
  | _, _ => none

/-- The number with a point that characters without a sign write. -/
def pointBody? (hasSign negative : Bool) (cs : List Char) : Option (Except Fault Binary64) :=
  if isOneOf [".inf", ".Inf", ".INF"] cs then some (.ok (.infinite negative))
  else if !hasSign && isOneOf [".nan", ".NaN", ".NAN"] cs then some (.ok .nan)
  else match cs with
    | '.' :: after =>
      if !hasSign && after.head?.any Text.isAsciiDigit then
        (pointed? false [] after).map .ok
      else none
    | _ =>
      let lead := cs.takeWhile isDigitOrLine
      match cs.dropWhile isDigitOrLine with
      | '.' :: after => if isDigitRun lead then (pointed? negative lead after).map .ok else none
      | _ => (sixtiethsWithPoint? cs).map fun found =>
        found.map fun x => if negative then x.neg else x

/-- The number with a point that characters write. -/
def point? (cs : List Char) : Option (Except Fault Binary64) :=
  let (negative, body) := sign cs
  pointBody? (body.length != cs.length) negative body

/-! ### Dates and moments -/

/-- A number of one digit or two, and the characters after it. -/
def oneOrTwo (cs : List Char) : Option (Nat × List Char) :=
  match cs with
  | a :: b :: rest =>
    if Text.isAsciiDigit a && Text.isAsciiDigit b then some (Text.natOfDigits [a, b], rest)
    else if Text.isAsciiDigit a then some (Text.natOfDigits [a], b :: rest)
    else none
  | [a] => if Text.isAsciiDigit a then some (Text.natOfDigits [a], []) else none
  | [] => none

/-- A number of so many digits, and the characters after it. -/
def exactDigits (count : Nat) (cs : List Char) : Option (Nat × List Char) :=
  let ds := cs.take count
  if ds.length = count && ds.all Text.isAsciiDigit then
    some (Text.natOfDigits ds, cs.drop count)
  else none

/-- The characters after a given one. -/
def after (c : Char) (cs : List Char) : Option (List Char) :=
  match cs with
  | d :: rest => if c == d then some rest else none
  | [] => none

/-- A space or a tab. -/
def isGap (c : Char) : Bool := c == ' ' || c == '\t'

/-- A date whose numbers have all their digits. -/
def fullDate? (cs : List Char) : Option (Nat × Nat × Nat) := do
  let (year, a) ← exactDigits 4 cs
  let (month, b) ← exactDigits 2 (← after '-' a)
  let (day, c) ← exactDigits 2 (← after '-' b)
  if c.isEmpty then return (year, month, day) else none

/-- The microseconds of the digits after the point of a second. -/
def microseconds (ds : List Char) : Nat :=
  let first := ds.take 6
  Text.natOfDigits (first ++ List.replicate (6 - first.length) '0')

/-- A fraction of a second, and the characters after it. -/
def fraction (cs : List Char) : Nat × List Char :=
  match cs with
  | '.' :: rest =>
    (microseconds (rest.takeWhile Text.isAsciiDigit), rest.dropWhile Text.isAsciiDigit)
  | _ => (0, cs)

/-- The offset of a clock that stands at the end of a moment, in seconds. -/
def offset? (cs : List Char) : Option (Option Int) :=
  if cs.isEmpty then some none
  else match cs.dropWhile isGap with
    | ['Z'] => some (some 0)
    | s :: rest =>
      if s == '+' || s == '-' then do
        let (hours, more) ← oneOrTwo rest
        let minutes ← match more with
          | [] => some 0
          | ':' :: ds => match exactDigits 2 ds with
            | some (m, []) => some m
            | _ => none
          | _ => none
        return some (signedInt (s == '-') (3600 * hours + 60 * minutes))
      else none
    | [] => none

/-- The characters after what separates a date from a time of day. -/
def timeOfDay? (cs : List Char) : Option (List Char) :=
  match cs with
  | c :: rest =>
    if c == 'T' || c == 't' then some rest
    else if isGap c then some (rest.dropWhile isGap)
    else none
  | [] => none

/-- The numbers of a date and a time of day. -/
structure Reading where
  year : Nat
  month : Nat
  day : Nat
  hour : Nat
  minute : Nat
  second : Nat
  microsecond : Nat
  offset : Option Int

/-- The numbers of a moment that characters write. -/
def moment? (cs : List Char) : Option Reading := do
  let (year, a) ← exactDigits 4 cs
  let (month, b) ← oneOrTwo (← after '-' a)
  let (day, c) ← oneOrTwo (← after '-' b)
  let (hour, d) ← oneOrTwo (← timeOfDay? c)
  let (minute, e) ← exactDigits 2 (← after ':' d)
  let (second, f) ← exactDigits 2 (← after ':' e)
  let (microsecond, g) := fraction f
  let offset ← offset? g
  return { year := year, month := month, day := day, hour := hour, minute := minute
           second := second, microsecond := microsecond, offset := offset }

/-- The moment of the numbers, if there is one; the offset is looked at first. -/
def Reading.moment (r : Reading) : Except CalendarFault Moment := do
  Moment.checkOffset r.offset
  let date ← Date.ofParts r.year r.month r.day
  Moment.ofParts date r.hour r.minute r.second r.microsecond r.offset

/-- The date or the moment that characters write. -/
def calendar? (cs : List Char) : Option (Except CalendarFault Scalar) :=
  match fullDate? cs with
  | some (year, month, day) => some ((Date.ofParts year month day).map .date)
  | none => (moment? cs).map fun r => r.moment.map .moment

/-! ### All kinds -/

/-- The value of a plain scalar. -/
def value (cs : List Char) : Except Fault Value :=
  match word? cs with
  | some v => .ok v
  | none => match point? cs with
    | some found => found.map .float
    | none => match whole? cs with
      | some n => wholeValue cs n
      | none => match calendar? cs with
        | some (.ok s) => .ok (.scalar s)
        | some (.error fault) => .error (.misuse (.calendar fault))
        | none => .ok (.text (Text.ofChars cs))

end ReflexPolicy.Yaml.Plain
