import ReflexPolicy.Text.Blank
import ReflexPolicy.Text.Case
import ReflexPolicy.Text.Digit
import ReflexPolicy.Text.Word

/-!
# Patterns

A pattern describes stretches of a text.  `Pattern.ends` lists the places at which a stretch that
begins at a given place may end, the preferred one first: the first alternative before the second
one, and a longer run before a shorter one.  What a pattern sees of the text before its beginning
is one character, which decides whether a word boundary stands there.
-/

namespace ReflexPolicy

/-- A place in a text: the character before it, if there is one, and the text after it. -/
structure Place where
  before : Option Char
  rest : List Char
  deriving DecidableEq

/-- A class of characters that patterns are written in. -/
inductive CharClass where
  | digit
  | blank
  | notNewline
  | notDot
  deriving DecidableEq

/-- The character belongs to a class. -/
def CharClass.has : CharClass → Char → Bool
  | digit, c => Text.isDigit c
  | blank, c => Text.isBlank c
  | notNewline, c => c != '\n'
  | notDot, c => c != '.'

/-- A pattern of stretches of a text. -/
inductive Pattern where
  /-- The empty stretch. -/
  | nothing
  /-- This character. -/
  | exactly (c : Char)
  /-- A character with this caseless form. -/
  | anyCase (c : Char)
  /-- A character of a class. -/
  | one (k : CharClass)
  /-- Characters of a class, at least some number of them and perhaps at most another. -/
  | run (k : CharClass) (least : Nat) (most : Option Nat)
  /-- The empty stretch at a word boundary. -/
  | boundary
  /-- The empty stretch where no stretch of a pattern begins. -/
  | notAhead (p : Pattern)
  /-- A stretch of the one pattern and then one of the other. -/
  | seq (p q : Pattern)
  /-- A stretch of the first pattern or else one of the second. -/
  | alt (p q : Pattern)

namespace Pattern

/-! ### Where a stretch ends -/

/-- The place after one character that satisfies a test. -/
def step (test : Char → Bool) (a : Place) : List Place :=
  match a.rest with
  | [] => []
  | c :: rest => if test c then [⟨some c, rest⟩] else []

/-- The places after at least `least` and at most `most` characters that satisfy a test, the
farthest first. -/
def runEnds (test : Char → Bool) (least : Nat) (most : Option Nat) (before : Option Char) :
    List Char → List Place
  | [] => if least = 0 then [⟨before, []⟩] else []
  | c :: rest =>
    let farther := if test c && most != some 0 then
        runEnds test (least - 1) (most.map (· - 1)) (some c) rest
      else []
    farther ++ if least = 0 then [⟨before, c :: rest⟩] else []

/-- The place is a word boundary. -/
def atBoundary (a : Place) : Bool := Text.isBoundary a.before a.rest.head?

/-- The places at which a stretch that begins at a place may end, the preferred one first. -/
def ends : Pattern → Place → List Place
  | nothing, a => [a]
  | exactly c, a => step (· == c) a
  | anyCase c, a => step (fun d => Text.fold d == c) a
  | one k, a => step k.has a
  | run k least most, a => runEnds k.has least most a.before a.rest
  | boundary, a => if atBoundary a then [a] else []
  | notAhead p, a => if (p.ends a).isEmpty then [a] else []
  | seq p q, a => (p.ends a).flatMap q.ends
  | alt p q, a => p.ends a ++ q.ends a

/-! ### Writing patterns -/

/-- The patterns of a list, one after another. -/
def inOrder : List Pattern → Pattern
  | [] => nothing
  | [p] => p
  | p :: ps => seq p (inOrder ps)

/-- The patterns of a list as alternatives. -/
def oneOf (first : Pattern) : List Pattern → Pattern
  | [] => first
  | p :: ps => alt first (oneOf p ps)

/-- A stretch of a pattern, or none. -/
def optional (p : Pattern) : Pattern := alt p nothing

/-- A text in small letters, in any letter case. -/
def words (s : String) : Pattern := inOrder (s.toList.map anyCase)

/-- One of some texts in small letters, in any letter case. -/
def wordsOf (first : String) (others : List String) : Pattern :=
  oneOf (words first) (others.map words)

/-- A text exactly as it is written. -/
def literally (s : String) : Pattern := inOrder (s.toList.map exactly)

/-- A pattern between word boundaries. -/
def delimited (p : Pattern) : Pattern := seq boundary (seq p boundary)

end Pattern

end ReflexPolicy
