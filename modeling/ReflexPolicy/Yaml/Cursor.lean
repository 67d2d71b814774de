import ReflexPolicy.Yaml.Supply

/-!
# Places in a YAML text

A cursor is a place in a text with its line and column.  Lines end in a line feed or in one of
the three other break characters; a carriage return is none, for texts come with their line ends
made alike.

Before characters are looked at, a cursor is asked to `reach` them: where the supply breaks off
before that, its fault is the outcome.
-/

namespace ReflexPolicy.Yaml

/-- A character that ends a line. -/
def isBreak (c : Char) : Bool := c == '\n' || c == '\u0085' || c == '\u2028' || c == '\u2029'

/-- A space or a tab. -/
def isGap (c : Char) : Bool := c == ' ' || c == '\t'

/-- The end of the text, or a character that separates words. -/
def isSeparator : Option Char → Bool
  | none => true
  | some c => isGap c || isBreak c

/-- The character that a break stands for in a scalar. -/
def breakText (c : Char) : Char := if c == '\u0085' then '\n' else c

/-- A place in a text. -/
structure Cursor where
  rest : List Char
  stop : Option ReadFault
  index : Nat
  line : Nat
  column : Nat

namespace Cursor

/-- The beginning of a text. -/
def start (s : Supply) : Cursor :=
  { rest := s.text, stop := s.stop, index := 0, line := 0, column := 0 }

/-- So many characters can be looked at, or the text ends before them. -/
def reach (a : Cursor) (count : Nat) : Except ReadFault Unit :=
  match a.stop with
  | none => .ok ()
  | some fault => if (a.rest.take count).length = count then .ok () else .error fault

/-- The character at a place. -/
def peek (a : Cursor) : Option Char := a.rest.head?

/-- The character after the one at a place. -/
def peekNext (a : Cursor) : Option Char := a.rest.tail.head?

/-- The character at a place, after reaching it. -/
def look (a : Cursor) : Except ReadFault (Option Char) := do
  a.reach 1
  return a.peek

/-- The place after a character. -/
def past (a : Cursor) (c : Char) (rest : List Char) : Cursor :=
  if isBreak c then { a with rest := rest, index := a.index + 1, line := a.line + 1, column := 0 }
  else { a with rest := rest, index := a.index + 1, column := a.column + 1 }

/-- The next place. -/
def next (a : Cursor) : Cursor :=
  match a.rest with
  | [] => a
  | c :: rest => a.past c rest

/-- The place so many characters of the same line further. -/
def forward (a : Cursor) (n : Nat) : Cursor :=
  { a with rest := a.rest.drop n, index := a.index + n, column := a.column + n }

/-- The characters of the line that satisfy a test, and the place after them, which is reached. -/
def span (test : Char → Bool) (a : Cursor) : Except ReadFault (List Char × Cursor) := do
  let found := a.rest.takeWhile fun c => test c && !isBreak c
  a.reach (found.length + 1)
  return (found, a.forward found.length)

/-- The place after the characters of the line that satisfy a test. -/
def skip (test : Char → Bool) (a : Cursor) : Except ReadFault Cursor :=
  (a.span test).map (·.2)

/-- The end of the line. -/
def lineEnd (a : Cursor) : Except ReadFault Cursor := a.skip fun _ => true

/-- The rest of the line, and the place after it. -/
def restOfLine (a : Cursor) : Except ReadFault (List Char × Cursor) := a.span fun _ => true

/-- The break at a place, and the place after it, which is reached. -/
def break? (a : Cursor) : Except ReadFault (Option (Char × Cursor)) := do
  a.reach 1
  match a.rest with
  | c :: _ =>
    if isBreak c then
      a.reach 2
      return some (breakText c, a.next)
    else return none
  | [] => return none

/-- The end of the line, after spaces and a comment. -/
def afterComment (a : Cursor) : Except ReadFault Cursor := do
  let gap ← a.skip (· == ' ')
  if gap.peek == some '#' then gap.lineEnd else return gap

/-- Three marks of one kind stand at a place. -/
def isTriple (mark : Char) (a : Cursor) : Bool := a.rest.take 3 == [mark, mark, mark]

/-- Three marks of one kind stand at a place, and then a separator. -/
def isMark (mark : Char) (a : Cursor) : Except ReadFault Bool := do
  a.reach 3
  if a.isTriple mark then
    a.reach 4
    return isSeparator (a.rest.drop 3).head?
  else return false

/-- The mark of the beginning or the end of a document stands at a place. -/
def isDocumentMark (a : Cursor) : Except ReadFault Bool :=
  if a.isTriple '-' then a.isMark '-' else a.isMark '.'

end Cursor

end ReflexPolicy.Yaml
