import ReflexPolicy.Yaml.Token

/-!
# YAML nodes

A node is a scalar, a list or a mapping, before plain scalars have been given a kind.
`Node.ofTokens` reads the one document that tokens may hold.  Where a node is left out, an empty
plain scalar stands in its place.

The tokens may have been stopped.  A token that does not fit is then found before the stop is; if
all tokens fit, and the reader would have to look at the next one, the stop is what is reported.
-/

namespace ReflexPolicy.Yaml

/-- A scalar, a list or a mapping. -/
inductive Node where
  | plain (cs : List Char)
  | text (t : Text)
  | list (items : List Node)
  | map (entries : List (Node × Node))

namespace Node

/-- What stands in the place of a node that is left out. -/
def absent : Node := .plain []

/-- Where a node may stand: inside a flow collection, in a block collection, or as a part of a
block mapping, where a list needs no indentation of its own. -/
inductive Position where
  | flow
  | block
  | blockPart
  deriving DecidableEq

/-- Why tokens are no node. -/
inductive Misfit where
  /-- A token does not fit. -/
  | stuck
  /-- The tokens end too early. -/
  | unfinished

/-- The misfit of tokens none of which can be read. -/
def misfit {α : Type} (ts : List Token) : Except Misfit α :=
  .error (if ts.isEmpty then .unfinished else .stuck)

/-- The first token is one of some. -/
def startsWith (marks : List Token) (ts : List Token) : Bool :=
  match ts with
  | t :: _ => marks.contains t
  | [] => false

/-- The tokens before which an item of a block list is left out. -/
def afterBlockItem : List Token := [.entry, .blockEnd]

/-- The tokens before which a part of a block mapping is left out. -/
def afterBlockPart : List Token := [.key, .value, .blockEnd]

/-- The tokens before which an item of a list inside a mapping is left out. -/
def afterInnerItem : List Token := [.entry, .key, .value, .blockEnd]

mutual

/-- A node, and the tokens after it. -/
def read (position : Position) : Nat → List Token → Except Misfit (Node × List Token)
  | 0, ts => misfit ts
  | fuel + 1, ts =>
    match ts with
    | .plain cs :: rest => .ok (.plain cs, rest)
    | .text t :: rest => .ok (.text t, rest)
    | .flowList :: rest => (readFlowItems fuel true rest).map fun found =>
      (.list found.1, found.2)
    | .flowMap :: rest => (readFlowEntries fuel true rest).map fun found =>
      (.map found.1, found.2)
    | .blockList :: rest =>
      if position = .flow then misfit ts
      else (readBlockItems fuel rest).map fun found => (.list found.1, found.2)
    | .blockMap :: rest =>
      if position = .flow then misfit ts
      else (readBlockEntries fuel rest).map fun found => (.map found.1, found.2)
    | .entry :: _ =>
      if position = .blockPart then
        (readInnerItems fuel ts).map fun found => (.list found.1, found.2)
      else misfit ts
    | _ => misfit ts

/-- A node, or an absent one before certain tokens, and the tokens after it. -/
def readUnless (position : Position) (marks : List Token) :
    Nat → List Token → Except Misfit (Node × List Token)
  | 0, ts => misfit ts
  | fuel + 1, ts => if startsWith marks ts then .ok (absent, ts) else read position fuel ts

/-- The items of a block list, and the tokens after its end. -/
def readBlockItems : Nat → List Token → Except Misfit (List Node × List Token)
  | 0, ts => misfit ts
  | fuel + 1, ts =>
    match ts with
    | .blockEnd :: rest => .ok ([], rest)
    | .entry :: rest => do
      let (item, after) ← readUnless .block afterBlockItem fuel rest
      let (items, last) ← readBlockItems fuel after
      return (item :: items, last)
    | _ => misfit ts

/-- The items of a list that is a part of a block mapping, and the tokens after them. -/
def readInnerItems : Nat → List Token → Except Misfit (List Node × List Token)
  | 0, ts => misfit ts
  | fuel + 1, ts =>
    match ts with
    | .entry :: rest => do
      let (item, after) ← readUnless .block afterInnerItem fuel rest
      let (items, last) ← readInnerItems fuel after
      return (item :: items, last)
    | _ => .ok ([], ts)

/-- The value after a key of a block mapping, absent if there is none. -/
def readBlockValue : Nat → List Token → Except Misfit (Node × List Token)
  | 0, ts => misfit ts
  | fuel + 1, ts =>
    match ts with
    | .value :: rest => readUnless .blockPart afterBlockPart fuel rest
    | _ => .ok (absent, ts)

/-- The entries of a block mapping, and the tokens after its end. -/
def readBlockEntries : Nat → List Token → Except Misfit (List (Node × Node) × List Token)
  | 0, ts => misfit ts
  | fuel + 1, ts =>
    match ts with
    | .blockEnd :: rest => .ok ([], rest)
    | .key :: rest => do
      let (key, after) ← readUnless .blockPart afterBlockPart fuel rest
      let (value, next) ← readBlockValue fuel after
      let (entries, last) ← readBlockEntries fuel next
      return ((key, value) :: entries, last)
    | _ => misfit ts

/-- The value after a key of a flow collection that ends with `close`, absent if there is
none. -/
def readFlowValue (close : Token) : Nat → List Token → Except Misfit (Node × List Token)
  | 0, ts => misfit ts
  | fuel + 1, ts =>
    match ts with
    | .value :: rest => readUnless .flow [.comma, close] fuel rest
    | _ => .ok (absent, ts)

/-- A key of a flow collection and its value. -/
def readFlowEntry (close : Token) : Nat → List Token → Except Misfit ((Node × Node) × List Token)
  | 0, ts => misfit ts
  | fuel + 1, ts => do
    let (key, after) ← readUnless .flow [.value, .comma, close] fuel ts
    let (value, last) ← readFlowValue close fuel after
    return ((key, value), last)

/-- The items of a flow list, and the tokens after its end.  An item may be one entry of a
mapping. -/
def readFlowItems : Nat → Bool → List Token → Except Misfit (List Node × List Token)
  | 0, _, ts => misfit ts
  | fuel + 1, first, ts =>
    match first, ts with
    | _, .flowListEnd :: rest => .ok ([], rest)
    | false, .comma :: rest => readFlowItem fuel rest
    | true, _ => readFlowItem fuel ts
    | false, _ => misfit ts

/-- An item of a flow list after its comma, and the items after it; a comma may be the last
thing before the end. -/
def readFlowItem : Nat → List Token → Except Misfit (List Node × List Token)
  | 0, ts => misfit ts
  | fuel + 1, ts =>
    match ts with
    | .flowListEnd :: rest => .ok ([], rest)
    | .key :: rest => do
      let (entry, after) ← readFlowEntry .flowListEnd fuel rest
      let (items, last) ← readFlowItems fuel false after
      return (.map [entry] :: items, last)
    | _ => do
      let (item, after) ← read .flow fuel ts
      let (items, last) ← readFlowItems fuel false after
      return (item :: items, last)

/-- The entries of a flow mapping, and the tokens after its end. -/
def readFlowEntries : Nat → Bool → List Token → Except Misfit (List (Node × Node) × List Token)
  | 0, _, ts => misfit ts
  | fuel + 1, first, ts =>
    match first, ts with
    | _, .flowMapEnd :: rest => .ok ([], rest)
    | false, .comma :: rest => readFlowMember fuel rest
    | true, _ => readFlowMember fuel ts
    | false, _ => misfit ts

/-- An entry of a flow mapping after its comma, and the entries after it; an entry may be a key
alone. -/
def readFlowMember : Nat → List Token → Except Misfit (List (Node × Node) × List Token)
  | 0, ts => misfit ts
  | fuel + 1, ts =>
    match ts with
    | .flowMapEnd :: rest => .ok ([], rest)
    | .key :: rest => do
      let (entry, after) ← readFlowEntry .flowMapEnd fuel rest
      let (entries, last) ← readFlowEntries fuel false after
      return (entry :: entries, last)
    | _ => do
      let (key, after) ← read .flow fuel ts
      let (entries, last) ← readFlowEntries fuel false after
      return ((key, absent) :: entries, last)

end

/-- The tokens after the marks of the end of a document. -/
def afterDocument (ts : List Token) : List Token := ts.dropWhile (· == .documentEnd)

/-- The node of a document after the mark of its beginning, absent if there is none. -/
def readMarked (fuel : Nat) (ts : List Token) : Except Misfit (Node × List Token) :=
  if ts.isEmpty || startsWith [.documentStart, .documentEnd] ts then .ok (absent, ts)
  else read .block fuel ts

/-- The node of the one document that tokens hold; none is the absent node. -/
def readDocument (ts : List Token) : Except Misfit Node := do
  let fuel := 4 * ts.length + 4
  let (node, rest) ← match ts with
    | [] => .ok (absent, [])
    | .documentStart :: rest => readMarked fuel rest
    | _ => read .block fuel ts
  if (afterDocument rest).isEmpty then return node else .error .stuck

/-- The node of the tokens of a text. -/
def ofTokens (ts : Tokens) : Except ReadFault Node :=
  match ts.stopped, readDocument ts.found with
  | none, .ok node => .ok node
  | none, .error _ => .error .malformed
  | some _, .error .stuck => .error .malformed
  | some fault, _ => .error fault

end Node

end ReflexPolicy.Yaml
