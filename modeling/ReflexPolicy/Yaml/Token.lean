import ReflexPolicy.Yaml.Folding

/-!
# YAML tokens

`Tokens.ofSupply` cuts what is supplied into tokens.  In block style the indentation of a line
opens and closes collections.  A scalar or a flow collection may turn out to be a key only when its
colon comes, on the same line and not too far away; the token of the key, and of the mapping that
it opens, then goes in front of it.

A fault stops the cutting.  Whoever reads the tokens has by then seen only those that are certain:
not the ones that a pending candidate may still go in front of.
-/

namespace ReflexPolicy.Yaml

/-- A token. -/
inductive Token where
  | blockList
  | blockMap
  | blockEnd
  | flowList
  | flowListEnd
  | flowMap
  | flowMapEnd
  | comma
  | entry
  | key
  | value
  | plain (cs : List Char)
  | text (t : Text)
  | documentStart
  | documentEnd
  deriving DecidableEq

/-- What may turn out to be a key: the number of tokens before it, and where it stands.  A
required one is an error if it does not. -/
structure Candidate where
  tokensBefore : Nat
  required : Bool
  index : Nat
  line : Nat
  column : Nat

/-- A text that is being cut into tokens. -/
structure Cutting where
  place : Cursor
  /-- The column of the innermost block collection, and those around it. -/
  indent : Int
  outer : List Int
  /-- A key may begin here. -/
  keyAllowed : Bool
  /-- The candidate of the innermost flow collection, and those around it. -/
  candidate : Option Candidate
  around : List (Option Candidate)
  /-- The tokens so far, reversed, and their number. -/
  tokens : List Token
  count : Nat

namespace Cutting

/-- The greatest distance between the beginning of a key and its colon. -/
def keyLength : Nat := 1024

/-- The beginning of a text. -/
def start (s : Supply) : Cutting :=
  { place := Cursor.start s, indent := -1, outer := [], keyAllowed := true, candidate := none
    around := [], tokens := [], count := 0 }

/-- The place is inside a flow collection. -/
def inFlow (s : Cutting) : Bool := !s.around.isEmpty

/-- One more token. -/
def push (s : Cutting) (t : Token) : Cutting :=
  { s with tokens := t :: s.tokens, count := s.count + 1 }

/-- One more token in front of the last `later` ones. -/
def pushBefore (s : Cutting) (later : Nat) (t : Token) : Cutting :=
  { s with tokens := s.tokens.take later ++ t :: s.tokens.drop later, count := s.count + 1 }

/-- The place moved, and one more token. -/
def pass (s : Cutting) (place : Cursor) (t : Token) : Cutting := { s.push t with place := place }

/-! ### Keys -/

/-- The candidate given up, unless it is required. -/
def giveUp (c : Option Candidate) : Except ReadFault (Option Candidate) :=
  match c with
  | some k => if k.required then .error .malformed else .ok none
  | none => .ok none

/-- The innermost candidate given up. -/
def dropCandidate (s : Cutting) : Except ReadFault Cutting := do
  let k ← giveUp s.candidate
  return { s with candidate := k }

/-- The candidate, unless it stands on an earlier line or too far away. -/
def fresh (a : Cursor) (c : Option Candidate) : Except ReadFault (Option Candidate) :=
  match c with
  | some k =>
    if k.line ≠ a.line ∨ keyLength < a.index - k.index then giveUp c else .ok c
  | none => .ok none

/-- The candidates that may still turn out to be keys. -/
def refresh (s : Cutting) : Except ReadFault Cutting := do
  let k ← fresh s.place s.candidate
  let ks ← s.around.mapM (fresh s.place)
  return { s with candidate := k, around := ks }

/-- What begins here, as a candidate. -/
def candidateHere (s : Cutting) : Candidate :=
  { tokensBefore := s.count
    required := !s.inFlow && decide (s.indent = s.place.column)
    index := s.place.index
    line := s.place.line
    column := s.place.column }

/-- What begins here becomes a candidate, if a key may begin here. -/
def mark (s : Cutting) : Except ReadFault Cutting :=
  if s.keyAllowed then
    (s.dropCandidate).map fun t => { t with candidate := some t.candidateHere }
  else .ok s

/-! ### Indentation -/

/-- The block collections that are indented deeper than a column end. -/
def unwindTo (column : Int) : Nat → Cutting → Cutting
  | 0, s => s
  | fuel + 1, s =>
    if column < s.indent then
      match s.outer with
      | outside :: rest =>
        unwindTo column fuel { s.push .blockEnd with indent := outside, outer := rest }
      | [] => s
    else s

/-- The block collections that the place has left end; inside a flow collection, none does. -/
def unwind (s : Cutting) (column : Int) : Cutting :=
  if s.inFlow then s else unwindTo column s.outer.length s

/-- A block collection begins at a column, if it is deeper than the innermost one. -/
def deepen (s : Cutting) (column : Nat) : Option Cutting :=
  if s.indent < column then some { s with indent := column, outer := s.indent :: s.outer }
  else none

/-- A block collection begins at a column, with its token at the end. -/
def begin (s : Cutting) (column : Nat) (t : Token) : Cutting :=
  match s.deepen column with
  | some deeper => deeper.push t
  | none => s

/-! ### One token -/

/-- The place after spaces, comments and line breaks; after a line break of block style a key may
begin. -/
def skipBlank : Nat → Cutting → Except ReadFault Cutting
  | 0, s => .ok s
  | fuel + 1, s => do
    let comment ← s.place.afterComment
    match ← comment.break? with
    | some (_, below) =>
      skipBlank fuel { s with place := below, keyAllowed := s.keyAllowed || !s.inFlow }
    | none => return { s with place := comment }

/-- The mark of the beginning or the end of a document. -/
def documentMark (s : Cutting) (t : Token) : Except ReadFault Cutting :=
  ((s.unwind (-1)).dropCandidate).map fun u =>
    { u.pass (u.place.forward 3) t with keyAllowed := false }

/-- The opening of a flow collection. -/
def openFlow (s : Cutting) (t : Token) : Except ReadFault Cutting :=
  s.mark.map fun u =>
    { u.pass (u.place.forward 1) t with
      keyAllowed := true, candidate := none, around := u.candidate :: u.around }

/-- The closing of a flow collection. -/
def closeFlow (s : Cutting) (t : Token) : Except ReadFault Cutting := do
  let u ← s.dropCandidate
  match u.around with
  | [] => throw .malformed
  | k :: rest =>
    return { u.pass (u.place.forward 1) t with
      keyAllowed := false, candidate := k, around := rest }

/-- A comma. -/
def comma (s : Cutting) : Except ReadFault Cutting :=
  (s.dropCandidate).map fun u => { u.pass (u.place.forward 1) .comma with keyAllowed := true }

/-- A mark of a collection may stand here. -/
def allowsMark (s : Cutting) : Except ReadFault Unit :=
  if !s.inFlow && !s.keyAllowed then .error .malformed else .ok ()

/-- The dash before an item of a block list. -/
def dash (s : Cutting) : Except ReadFault Cutting := do
  s.allowsMark
  let t := if s.inFlow then s else s.begin s.place.column .blockList
  let u ← t.dropCandidate
  return { u.pass (u.place.forward 1) .entry with keyAllowed := true }

/-- The question mark before a key. -/
def question (s : Cutting) : Except ReadFault Cutting := do
  s.allowsMark
  let t := if s.inFlow then s else s.begin s.place.column .blockMap
  let u ← t.dropCandidate
  return { u.pass (u.place.forward 1) .key with keyAllowed := !u.inFlow }

/-- The colon after a candidate, which now is a key. -/
def colonAfter (s : Cutting) (k : Candidate) : Cutting :=
  let later := s.count - k.tokensBefore
  let keyed := { s.pushBefore later .key with candidate := none, keyAllowed := false }
  let opened := if s.inFlow then keyed
    else match keyed.deepen k.column with
      | some deeper => deeper.pushBefore (later + 1) .blockMap
      | none => keyed
  opened.pass (opened.place.forward 1) .value

/-- A colon that no key stands before. -/
def bareColon (s : Cutting) : Except ReadFault Cutting := do
  s.allowsMark
  let t := if s.inFlow then s else s.begin s.place.column .blockMap
  return { t.pass (t.place.forward 1) .value with candidate := none, keyAllowed := !t.inFlow }

/-- A colon. -/
def colon (s : Cutting) : Except ReadFault Cutting :=
  match s.candidate with
  | some k => .ok (s.colonAfter k)
  | none => s.bareColon

/-- A block scalar, after which a key may begin. -/
def block (s : Cutting) (folded : Bool) : Except ReadFault Cutting := do
  let u ← s.dropCandidate
  let (text, after) ← blockScalar folded u.indent (u.place.forward 1)
  return { u.pass after (.text (Text.ofChars text)) with keyAllowed := true }

/-- A quoted scalar. -/
def quoted (s : Cutting) (double : Bool) : Except ReadFault Cutting := do
  let u ← s.mark
  let (text, after) ← quotedScalar double u.place
  return { u.pass after (.text text) with keyAllowed := false }

/-- A plain scalar; where it ends with its line, a key may begin after it. -/
def plain (s : Cutting) : Except ReadFault Cutting := do
  let u ← s.mark
  let (text, after, lineEnded) ← plainScalar u.inFlow (u.indent + 1) u.place
  return { u.pass after (.plain text) with keyAllowed := lineEnded }

/-- The characters that no plain scalar begins with. -/
def indicators : List Char := "-?:,[]\x7b\x7d#&*!|>'\"%@`".toList

/-- A plain scalar may begin with the character at a place.  The one after it is looked at only if
the character is a separator or an indicator. -/
def beginsPlain (s : Cutting) (c : Char) : Except ReadFault Bool := do
  if !(isSeparator (some c) || indicators.contains c) then return true
  s.place.reach 2
  return !isSeparator s.place.peekNext
    && (c == '-' || (!s.inFlow && (c == '?' || c == ':')))

/-- A separator stands after the character at a place. -/
def standsAlone (s : Cutting) : Except ReadFault Bool := do
  s.place.reach 2
  return isSeparator s.place.peekNext

/-- A question mark or a colon at a place is a mark: in block style a separator stands after
it. -/
def isKeyMark (s : Cutting) : Except ReadFault Bool :=
  if s.inFlow then .ok true else s.standsAlone

/-- The mark of a document stands at a place. -/
def atDocument (s : Cutting) (mark : Char) : Except ReadFault Bool :=
  if s.place.column = 0 then s.place.isMark mark else .ok false

/-- The token that begins at a place with a character, none of the marks that stand alone. -/
def scalar (s : Cutting) (c : Char) : Except ReadFault Cutting := do
  if c == '|' && !s.inFlow then s.block false
  else if c == '>' && !s.inFlow then s.block true
  else if c == '\'' then s.quoted false
  else if c == '"' then s.quoted true
  else if ← s.beginsPlain c then s.plain
  else throw .malformed

/-- The token that begins at a place with a character. -/
def token (s : Cutting) (c : Char) : Except ReadFault Cutting := do
  if c == '[' then s.openFlow .flowList
  else if c == '\x7b' then s.openFlow .flowMap
  else if c == ']' then s.closeFlow .flowListEnd
  else if c == '\x7d' then s.closeFlow .flowMapEnd
  else if c == ',' then s.comma
  else if c == '-' then
    if ← s.atDocument c then s.documentMark .documentStart
    else if ← s.standsAlone then s.dash
    else s.scalar c
  else if c == '.' then
    if ← s.atDocument c then s.documentMark .documentEnd else s.scalar c
  else if c == '?' then
    if ← s.isKeyMark then s.question else s.scalar c
  else if c == ':' then
    if ← s.isKeyMark then s.colon else s.scalar c
  else s.scalar c

/-- The end of the text: all block collections end. -/
def finish (s : Cutting) : Except ReadFault (List Token) :=
  ((s.unwind (-1)).dropCandidate).map fun u => u.tokens.reverse

/-- The tokens that are certain: no candidate that may still turn out to be a key stands before
them. -/
def certain (s : Cutting) : List Token :=
  let pending := match s.refresh with
    | .ok t => (t.candidate :: t.around).filterMap id
    | .error _ => []
  s.tokens.reverse.take (pending.foldl (fun least k => min least k.tokensBefore) s.count)

/-- The next token, or all that there are.  The place after a token is reached with it. -/
def step (s : Cutting) : Except ReadFault (Cutting ⊕ List Token) := do
  let here ← skipBlank (s.place.rest.length + 1) s
  let t ← here.refresh
  let u := t.unwind t.place.column
  match ← u.place.look with
  | none => return .inr (← u.finish)
  | some c =>
    let after ← u.token c
    after.place.reach 1
    return .inl after

end Cutting

/-- The tokens of a text, and why there are no more if the cutting was stopped. -/
structure Tokens where
  found : List Token
  stopped : Option ReadFault

/-- The tokens from a place on. -/
def Cutting.run : Nat → Cutting → Tokens
  | 0, s => { found := s.certain, stopped := some .malformed }
  | fuel + 1, s =>
    match s.step with
    | .ok (.inl after) => run fuel after
    | .ok (.inr found) => { found := found, stopped := none }
    | .error fault => { found := s.certain, stopped := some fault }

/-- The tokens of a text. -/
def Tokens.ofSupply (s : Supply) : Tokens :=
  Cutting.run (s.text.length + 1) (Cutting.start s)

end ReflexPolicy.Yaml
