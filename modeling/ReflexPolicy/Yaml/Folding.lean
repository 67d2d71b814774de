import ReflexPolicy.Yaml.Cursor
import ReflexPolicy.Json.Reader

/-!
# The texts of YAML scalars

Plain scalars, quoted scalars and block scalars are read from a place up to their end.  Where a
scalar goes over lines, its lines are folded: a single line break between two lines becomes a
space, and of several the first is dropped.
-/

namespace ReflexPolicy.Yaml

/-- What the line breaks between two lines of a scalar become. -/
def fold (first : Char) (others : List Char) : List Char :=
  if first != '\n' then first :: others
  else if others.isEmpty then [' ']
  else others

/-! ### Plain scalars -/

/-- The character ends a plain scalar of a flow collection. -/
def isFlowMark (c : Char) : Bool :=
  c == ',' || c == '?' || c == '[' || c == ']' || c == '\x7b' || c == '\x7d'

/-- What follows a colon makes it the end of a key. -/
def endsKey (inFlow : Bool) (following : Option Char) : Bool :=
  isSeparator following || (inFlow && following.any fun c => c != '?' && isFlowMark c)

/-- The part of a plain scalar up to a gap, a colon that ends a key, or the end. -/
def plainPart (inFlow : Bool) : List Char → List Char
  | [] => []
  | c :: rest =>
    if isGap c || isBreak c || (c == ':' && endsKey inFlow rest.head?)
        || (inFlow && isFlowMark c) then []
    else c :: plainPart inFlow rest

/-- The part of a plain scalar that begins at a place; a comment is none.  What comes after the
part has been looked at, and after a colon the next character, too. -/
def plainPartFrom (inFlow : Bool) (a : Cursor) : Except ReadFault (List Char) := do
  if (← a.look) == some '#' then return []
  let part := plainPart inFlow a.rest
  let after := a.forward part.length
  if (← after.look) == some ':' then after.reach 2
  return part

/-- The breaks of blank lines and the spaces around them; none before the mark of a document. -/
def plainBreaks :
    Nat → Cursor → List Char → Except ReadFault (Option (List Char) × Cursor)
  | 0, a, acc => .ok (some acc.reverse, a)
  | fuel + 1, a, acc => do
    if (← a.look) == some ' ' then plainBreaks fuel a.next acc
    else match ← a.break? with
      | some (b, after) =>
        if ← after.isDocumentMark then return (none, after)
        else plainBreaks fuel after (b :: acc)
      | none => return (some acc.reverse, a)

/-- What stands between two parts of a plain scalar, the place after it, and whether a line ended
there. -/
def plainGap (a : Cursor) : Except ReadFault (List Char × Cursor × Bool) := do
  let (spaces, after) ← a.span (· == ' ')
  match ← after.break? with
  | none => return (spaces, after, false)
  | some (b, below) =>
    if ← below.isDocumentMark then return ([], below, true)
    match ← plainBreaks below.rest.length below [] with
    | (none, last) => return ([], last, true)
    | (some others, last) => return (fold b others, last, true)

/-- A plain scalar, the place after it, and whether it ended with its line.  `acc` holds what comes
before, reversed, and `gap` stands before the next part. -/
def plainParts (inFlow : Bool) (indent : Int) :
    Nat → Cursor → List Char → List Char → Bool →
      Except ReadFault (List Char × Cursor × Bool)
  | 0, a, acc, _, ended => .ok (acc.reverse, a, ended)
  | fuel + 1, a, acc, gap, ended => do
    let part ← plainPartFrom inFlow a
    if part.isEmpty then return (acc.reverse, a, ended)
    let text := part.reverse ++ gap.reverse ++ acc
    let (between, after, lineEnded) ← plainGap (a.forward part.length)
    if between.isEmpty || (← after.look) == some '#'
        || (!inFlow && decide ((after.column : Int) < indent)) then
      return (text.reverse, after, lineEnded)
    else plainParts inFlow indent fuel after text between lineEnded

/-- The plain scalar at a place, the place after it, and whether it ended with its line. -/
def plainScalar (inFlow : Bool) (indent : Int) (a : Cursor) :
    Except ReadFault (List Char × Cursor × Bool) :=
  plainParts inFlow indent (a.rest.length + 1) a [] [] false

/-! ### Quoted scalars -/

/-- The characters that an escaped letter stands for. -/
def escapes : List (Char × Char) :=
  [('0', '\x00'), ('a', '\x07'), ('b', '\x08'), ('t', '\t'), ('\t', '\t'), ('n', '\n'),
    ('v', '\x0b'), ('f', '\x0c'), ('r', '\r'), ('e', '\x1b'), (' ', ' '), ('"', '"'),
    ('\\', '\\'), ('/', '/'), ('N', '\u0085'), ('_', '\u00a0'), ('L', '\u2028'),
    ('P', '\u2029')]

/-- The number of hexadecimal digits after an escaped letter. -/
def escapeWidth? (c : Char) : Option Nat :=
  if c == 'x' then some 2 else if c == 'u' then some 4 else if c == 'U' then some 8 else none

/-- The number that hexadecimal digits write. -/
def hexNumber (cs : List Char) : Nat :=
  cs.foldl (fun n c => 16 * n + (Json.hexValue? c).getD 0) 0

/-- The number behind that of the last letter. -/
def letterLimit : Nat := 0x110000

/-- The least number that is too large even to be looked up. -/
def lookupLimit : Nat := 0x80000000

/-- The letter of a number that an escape names. -/
def letterOf (n : Nat) : Except ReadFault Letter :=
  if n < letterLimit then .ok (Letter.ofCode n)
  else if n < lookupLimit then .error (.unusable (.misuse .noCodePoint))
  else .error (.unusable .escapeTooLarge)

/-- The letter that so many hexadecimal digits at a place name. -/
def hexLetter (width : Nat) (a : Cursor) : Except ReadFault Letter := do
  let digits := (a.rest.take width).takeWhile fun c => (Json.hexValue? c).isSome
  if digits.length = width then letterOf (hexNumber digits)
  else
    a.reach (digits.length + 1)
    throw .malformed

/-- The breaks of the blank lines inside a quoted scalar; the mark of a document may not stand
there. -/
def quotedBreaks : Nat → Cursor → List Char → Except ReadFault (List Char × Cursor)
  | 0, _, _ => .error .malformed
  | fuel + 1, a, acc => do
    if ← a.isDocumentMark then throw .malformed
    let after ← a.skip isGap
    match ← after.break? with
    | some (b, below) => quotedBreaks fuel below (b :: acc)
    | none => return (acc.reverse, after)

/-- The breaks of the blank lines inside a quoted scalar from a place on. -/
def quotedBreaksFrom (a : Cursor) : Except ReadFault (List Char × Cursor) :=
  quotedBreaks (a.rest.length + 1) a []

/-- A gap inside a quoted scalar, folded if it holds line breaks, and the place after it. -/
def quotedGap (a : Cursor) : Except ReadFault (List Char × Cursor) := do
  let (gap, after) ← a.span isGap
  match ← after.break? with
  | none => if after.rest.isEmpty then throw .malformed else return (gap, after)
  | some (b, below) =>
    let (others, last) ← quotedBreaksFrom below
    return (fold b others, last)

/-- An escape after its backslash, and the place after it. -/
def escaped (a : Cursor) : Except ReadFault (List Letter × Cursor) := do
  match ← a.look with
  | none => throw .malformed
  | some c =>
    match escapes.find? fun e => e.1 == c with
    | some e => return ([.char e.2], a.forward 1)
    | none => match escapeWidth? c with
      | some width =>
        let l ← hexLetter width (a.forward 1)
        return ([l], a.forward (width + 1))
      | none => match ← a.break? with
        | some (_, below) =>
          let (breaks, last) ← quotedBreaksFrom below
          return (breaks.map .char, last)
        | none => throw .malformed

/-- The rest of a quoted scalar, and the place after its closing quote; `acc` holds what comes
before, reversed. -/
def quotedParts (double : Bool) :
    Nat → Cursor → List Letter → Except ReadFault (Text × Cursor)
  | 0, _, _ => .error .malformed
  | fuel + 1, a, acc => do
    match ← a.look with
    | none => throw .malformed
    | some c =>
      if isGap c || isBreak c then
        let (gap, after) ← quotedGap a
        quotedParts double fuel after ((gap.map .char).reverse ++ acc)
      else if double && c == '\\' then
        let (found, after) ← escaped (a.forward 1)
        quotedParts double fuel after (found.reverse ++ acc)
      else if double && c == '"' then return (⟨acc.reverse⟩, a.forward 1)
      else if !double && c == '\'' then
        a.reach 2
        if a.peekNext == some '\'' then
          quotedParts double fuel (a.forward 2) (.char '\'' :: acc)
        else return (⟨acc.reverse⟩, a.forward 1)
      else quotedParts double fuel (a.forward 1) (.char c :: acc)

/-- The quoted scalar whose opening quote stands at a place, and the place after it. -/
def quotedScalar (double : Bool) (a : Cursor) : Except ReadFault (Text × Cursor) :=
  quotedParts double (a.rest.length + 1) (a.forward 1) []

/-! ### Block scalars -/

/-- What becomes of the line breaks at the end of a block scalar. -/
inductive Chomping where
  | strip
  | clip
  | keep
  deriving DecidableEq

/-- The marks of a block scalar: what becomes of its last breaks, and how deep it is indented. -/
structure BlockHeader where
  chomping : Chomping
  increment : Option Nat

/-- The chomping that a mark asks for. -/
def chompingOf? (c : Option Char) : Option Chomping :=
  if c == some '+' then some .keep else if c == some '-' then some .strip else none

/-- The depth that a digit gives. -/
def incrementOf? (c : Option Char) : Option Nat :=
  match c with
  | some d => if Text.isAsciiDigit d then some (d.toNat - '0'.toNat) else none
  | none => none

/-- The marks at a place, in either order, and the place after them. -/
def blockMarks (a : Cursor) : Except ReadFault (BlockHeader × Cursor) := do
  a.reach 1
  match chompingOf? a.peek, incrementOf? a.peek with
  | some k, _ =>
    match incrementOf? (← a.next.look) with
    | some n => return (⟨k, some n⟩, (a.next).next)
    | none => return (⟨k, none⟩, a.next)
  | none, some n =>
    if n = 0 then throw .malformed
    match chompingOf? (← a.next.look) with
    | some k => return (⟨k, some n⟩, (a.next).next)
    | none => return (⟨.clip, some n⟩, a.next)
  | none, none => return (⟨.clip, none⟩, a)

/-- The header of a block scalar with the rest of its line, and the place below it. -/
def blockHeader (a : Cursor) : Except ReadFault (BlockHeader × Cursor) := do
  let (header, after) ← blockMarks a
  if header.increment == some 0 then throw .malformed
  if (← after.look).any fun c => c != ' ' && !isBreak c then throw .malformed
  let comment ← after.afterComment
  match ← comment.break? with
  | some (_, below) => return (header, below)
  | none => if comment.rest.isEmpty then return (header, comment) else throw .malformed

/-- The breaks before the first line of a block scalar, the greatest indentation on the way, and
the place after them. -/
def leadingBreaks :
    Nat → Cursor → List Char → Nat → Except ReadFault (List Char × Nat × Cursor)
  | 0, a, acc, deepest => .ok (acc.reverse, deepest, a)
  | fuel + 1, a, acc, deepest => do
    if (← a.look) == some ' ' then
      leadingBreaks fuel a.next acc (max deepest (a.column + 1))
    else match ← a.break? with
      | some (b, below) => leadingBreaks fuel below (b :: acc) deepest
      | none => return (acc.reverse, deepest, a)

/-- The place after the indentation of a line, at most so deep. -/
def indented (depth : Nat) (a : Cursor) : Cursor :=
  a.forward ((a.rest.take (depth - a.column)).takeWhile (· == ' ')).length

/-- The breaks of blank lines, and the place where the next line begins. -/
def blankLines (depth : Nat) : Nat → Cursor → List Char → Except ReadFault (List Char × Cursor)
  | 0, a, acc => .ok (acc.reverse, a)
  | fuel + 1, a, acc => do
    let inside := indented depth a
    match ← inside.break? with
    | some (b, below) => blankLines depth fuel below (b :: acc)
    | none => return (acc.reverse, inside)

/-- What stands between two lines of a block scalar before their blank lines. -/
def between (folded : Bool) (last : Option Char) (startsWithGap nextWithGap : Bool)
    (breaks : List Char) : List Char :=
  match last with
  | none => []
  | some b =>
    if folded && b == '\n' && !startsWithGap && !nextWithGap then
      if breaks.isEmpty then [' '] else []
    else [b]

/-- The line is a gap. -/
def beginsWithGap (a : Cursor) : Bool := a.peek.any isGap

/-- The lines of a block scalar from a place: the text, the last break, the breaks of the blank
lines after it, and the place after them. -/
def blockLines (folded : Bool) (depth : Nat) :
    Nat → Cursor → List Char → List Char →
      Except ReadFault (List Char × Option Char × List Char × Cursor)
  | 0, a, acc, breaks => .ok (acc, none, breaks, a)
  | fuel + 1, a, acc, breaks => do
    let (line, after) ← a.restOfLine
    let text := acc ++ breaks ++ line
    match ← after.break? with
    | none => return (text, none, [], after)
    | some (b, below) =>
      let (blank, start) ← blankLines depth (below.rest.length + 1) below []
      if start.column = depth && !start.rest.isEmpty then
        blockLines folded depth fuel start
          (text ++ between folded (some b) (beginsWithGap a) (beginsWithGap start) blank) blank
      else return (text, some b, blank, start)

/-- The blank lines before the first line of a block scalar, the depth of its lines, and the place
where they begin. -/
def blockStart (header : BlockHeader) (least : Nat) (a : Cursor) :
    Except ReadFault (List Char × Nat × Cursor) := do
  let size := a.rest.length + 1
  match header.increment with
  | none =>
    let (breaks, deepest, start) ← leadingBreaks size a [] 0
    return (breaks, max least deepest, start)
  | some n =>
    let (breaks, start) ← blankLines (least + n - 1) size a []
    return (breaks, least + n - 1, start)

/-- The block scalar whose header stands at a place, and the place after it. -/
def blockScalar (folded : Bool) (indent : Int) (a : Cursor) :
    Except ReadFault (List Char × Cursor) := do
  let (header, below) ← blockHeader a
  let (breaks, depth, start) ← blockStart header (max 1 (indent + 1).toNat) below
  let (text, last, tail, after) ←
    if start.column = depth && !start.rest.isEmpty then
      blockLines folded depth (start.rest.length + 1) start [] breaks
    else pure ([], none, breaks, start)
  let close := if header.chomping = .strip then [] else last.toList
  let kept := if header.chomping = .keep then tail else []
  return (text ++ close ++ kept, after)

end ReflexPolicy.Yaml
