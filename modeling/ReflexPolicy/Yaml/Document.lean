import ReflexPolicy.Yaml.Node
import ReflexPolicy.Yaml.Plain

/-!
# YAML documents

`Yaml.read` is the value of the one document of a supply; one without a document is null.  A key
is a scalar, and of several entries with one key the last wins, at the place of the first.  An
entry whose key is the merge word gives its mapping's entries to the mapping around it, in front
of the entries of its own.

A document may have several faults.  The one that is reported is that of the collection nearest to
the root, and among those at one level the first: a collection is only opened when all collections
above it have been filled.
-/

namespace ReflexPolicy.Yaml

/-! ### Faults by level -/

/-- A fault, and the level of the collection that it is found in. -/
structure Found where
  level : Nat
  fault : ReadFault

/-- Two parts, or the fault of the lesser level in them, the first of two at one level. -/
def both {α β : Type} : Except Found α → Except Found β → Except Found (α × β)
  | .ok a, .ok b => .ok (a, b)
  | .error e, .ok _ => .error e
  | .ok _, .error e => .error e
  | .error d, .error e => .error (if e.level < d.level then e else d)

/-- What is found in a collection of some level. -/
def foundAt {α : Type} (level : Nat) : Except ReadFault α → Except Found α
  | .ok a => .ok a
  | .error fault => .error { level := level, fault := fault }

/-! ### Scalars and keys -/

/-- The value of a plain scalar. -/
def plainValue (cs : List Char) : Except ReadFault Value :=
  if Plain.isOneOf Plain.reservedWords cs then .error .malformed
  else match Plain.value cs with
    | .ok v => .ok v
    | .error cause => .error (.unusable cause)

/-- The key that a node is. -/
def keyOf : Node → Except ReadFault Scalar
  | .text t => .ok (.text t)
  | .plain cs =>
    if cs == ['='] then .ok (.text "=")
    else match plainValue cs with
      | .ok (.scalar s) => .ok s
      | .ok _ => .error .malformed
      | .error e => .error e
  | _ => .error .malformed

/-- The key is the merge word. -/
def isMerge : Node → Bool
  | .plain cs => cs == ['<', '<']
  | _ => false

/-- A scalar that is not a number. -/
def isNan : Scalar → Bool
  | .number (.float x) => x.isNan
  | _ => false

/-- The keys are the same; in a document, what is not a number is one key. -/
def sameKey (a b : Scalar) : Bool := a.same b || (isNan a && isNan b)

/-- The mapping of some entries. -/
def mapping (es : List (Scalar × Value)) : Value :=
  letI : BEq Scalar := ⟨sameKey⟩
  .map (Entries.ofList es)

/-! ### Merges -/

mutual

/-- The node can give its entries to a mapping: it is a mapping, or a list of mappings, whose own
merges are good. -/
def isSource : Node → Bool
  | .map entries => mergesWell entries
  | .list items => areMappings items
  | _ => false

/-- The nodes are mappings whose own merges are good. -/
def areMappings : List Node → Bool
  | [] => true
  | .map entries :: rest => mergesWell entries && areMappings rest
  | _ :: _ => false

/-- All merges among some entries have something to give. -/
def mergesWell : List (Node × Node) → Bool
  | [] => true
  | (k, n) :: rest => (!isMerge k || isSource n) && mergesWell rest

end

/-! ### Values -/

/-- The first of two stretches of entries, and then the second. -/
def chain (first second : Except Found (List (Scalar × Value))) :
    Except Found (List (Scalar × Value)) :=
  (both first second).map fun found => found.1 ++ found.2

mutual

/-- The value of a node that stands in a collection of some level. -/
def valueOf (level : Nat) : Node → Except Found Value
  | .text t => .ok (.text t)
  | .plain cs => foundAt level (plainValue cs)
  | .list items => (itemsOf (level + 1) items).map .list
  | .map entries =>
    if mergesWell entries then
      (chain (mergedOf (level + 1) entries) (ownOf (level + 1) entries)).map mapping
    else .error { level := level + 1, fault := .malformed }

/-- The values of the nodes of a list. -/
def itemsOf (level : Nat) : List Node → Except Found (List Value)
  | [] => .ok []
  | n :: ns => (both (valueOf level n) (itemsOf level ns)).map fun found => found.1 :: found.2

/-- The entries of a mapping that are its own. -/
def ownOf (level : Nat) : List (Node × Node) → Except Found (List (Scalar × Value))
  | [] => .ok []
  | (k, n) :: rest =>
    if isMerge k then ownOf level rest
    else
      let entry := both (foundAt level (keyOf k)) (valueOf level n)
      (both entry (ownOf level rest)).map fun found => found.1 :: found.2

/-- The entries that a mapping is given by its merges, one merge after another. -/
def mergedOf (level : Nat) : List (Node × Node) → Except Found (List (Scalar × Value))
  | [] => .ok []
  | (k, n) :: rest =>
    if isMerge k then chain (givenBy level n) (mergedOf level rest) else mergedOf level rest

/-- The entries that a node gives to a mapping. -/
def givenBy (level : Nat) : Node → Except Found (List (Scalar × Value))
  | .map entries => chain (mergedOf level entries) (ownOf level entries)
  | .list items => givenByAll level items
  | _ => .error { level := level, fault := .malformed }

/-- The entries that the nodes of a list give to a mapping, those of the last node first. -/
def givenByAll (level : Nat) : List Node → Except Found (List (Scalar × Value))
  | [] => .ok []
  | n :: ns => chain (givenByAll level ns) (givenBy level n)

end

/-- The value of the one document that is supplied. -/
def read (s : Supply) : Except ReadFault Value := do
  match valueOf 0 (← Node.ofTokens (Tokens.ofSupply s.withoutMark)) with
  | .ok v => return v
  | .error found => throw found.fault

end ReflexPolicy.Yaml
