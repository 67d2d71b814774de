import ReflexPolicy.CommandLine.Switch
import ReflexPolicy.Text.Digit

/-!
# Pieces of a command line

Every argument of a command line is a word, a switch, or a stranger that looks like a switch.  A
switch may be shortened to any beginning that no other switch shares, and may carry its value
behind an equals sign.  Behind the first double hyphen all arguments are words.
-/

namespace ReflexPolicy.CommandLine

/-- What an argument is. -/
inductive Piece where
  /-- A word: the value of a switch, or the name of the file. -/
  | word
  /-- The double hyphen before which switches end. -/
  | mark
  /-- A switch in its short or long spelling, with the value that the argument carries. -/
  | switch (s : Switch) (short : Bool) (carried : Option (List Char))
  /-- What looks like a switch and is none. -/
  | stranger
  deriving DecidableEq

/-- The characters before the first equals sign, and those behind it, if there is one. -/
def splitValue (cs : List Char) : List Char × Option (List Char) :=
  (cs.takeWhile (· != '='), match cs.dropWhile (· != '=') with
    | _ :: value => some value
    | [] => none)

/-- The spelling has one hyphen. -/
def isShort : List Char → Bool
  | '-' :: '-' :: _ => false
  | _ => true

/-- The switch that the whole argument spells, or that it spells before an equals sign. -/
def exactSwitch? (cs : List Char) : Option Piece :=
  match Switch.ofSpelling? cs, splitValue cs with
  | some s, _ => some (.switch s (isShort cs) none)
  | none, (stem, some value) =>
    (Switch.ofSpelling? stem).map fun s => .switch s (isShort stem) (some value)
  | none, (_, none) => none

/-- The switches that the argument may be short for, each with its spelling: after two hyphens
the beginning of a spelling, after one hyphen a short spelling that carries the rest. -/
def likelySwitches (cs : List Char) : List (List Char × Piece) :=
  match cs with
  | '-' :: '-' :: _ =>
    let (stem, value) := splitValue cs
    (Switch.spelled.filter fun e => stem.isPrefixOf e.1).map fun e =>
      (e.1, .switch e.2 false value)
  | '-' :: c :: rest =>
    (Switch.spelled.filter fun e => e.1 == ['-', c]).map fun e =>
      (e.1, .switch e.2 true (some rest))
  | _ => []

/-- The end of a text, or of its last line. -/
def isLineEnd (cs : List Char) : Bool := cs.isEmpty || cs == ['\n']

/-- A hyphen before a number, with or without a fraction. -/
def isNegativeNumber : List Char → Bool
  | '-' :: body =>
    let whole := body.takeWhile Text.isDigit
    match body.dropWhile Text.isDigit with
    | '.' :: places =>
      !(places.takeWhile Text.isDigit).isEmpty && isLineEnd (places.dropWhile Text.isDigit)
    | rest => !whole.isEmpty && isLineEnd rest
  | _ => false

/-- What an argument with a hyphen in front is. -/
def classifyHyphened (given : String) : Except Misread Piece :=
  let cs := given.toList
  match exactSwitch? cs, likelySwitches cs with
  | some p, _ => .ok p
  | none, [(_, p)] => .ok p
  | none, [] => .ok (if isNegativeNumber cs || cs.contains ' ' then .word else .stranger)
  | none, found =>
    .error (.ambiguous given (found.map fun e => String.ofList e.1))

/-- What an argument before the double hyphen is. -/
def classify (given : String) : Except Misread Piece :=
  match given.toList with
  | '-' :: _ :: _ => classifyHyphened given
  | _ => .ok .word

/-- The pieces of a command line. -/
def classifyAll : List String → Except Misread (List (String × Piece))
  | [] => .ok []
  | given :: rest =>
    if given == "--" then .ok ((given, .mark) :: rest.map fun a => (a, .word))
    else do
      let piece ← classify given
      return (given, piece) :: (← classifyAll rest)

end ReflexPolicy.CommandLine
