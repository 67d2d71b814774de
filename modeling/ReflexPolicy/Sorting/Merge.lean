import ReflexPolicy.Sorting.Gallop
import ReflexPolicy.Sorting.Run

/-!
# Merging runs

Two neighbouring runs are merged from the front or from the back, whichever end lets the shorter
run be the one that is held.  A merge walks, item by item, until one run has won so often in a row
that it is worth while to gallop; it gallops as long as that pays.  `patience` is the number of
wins that it takes, and is handed on from merge to merge.
-/

namespace ReflexPolicy.Sorting

variable {α ε : Type}

/-- How a merge goes on: item by item, with the number of wins in a row of the held run and of
the other one, or in gallops. -/
inductive Stride where
  | walk (held other : Nat)
  | gallop
  deriving DecidableEq

/-- A merge under way.  Runs are seen from the end that the merge starts from. -/
structure Merge (α : Type) where
  /-- The merged items, the latest first. -/
  out : List α
  /-- What is left of the run that is held. -/
  held : List α
  /-- What is left of the other run. -/
  other : List α
  patience : Nat
  stride : Stride

namespace Merge

/-- The items of the merge in order, if the rest of the other run goes before that of the held
one. -/
def items (m : Merge α) : List α := m.out.reverse ++ m.other ++ m.held

/-- The rest of the merge is clear: the other run is used up, or the held one down to its last
item, which is known to go last. -/
def isSettled (m : Merge α) : Bool := m.other.isEmpty || m.held.length ≤ 1

/-- The first items of the held run are taken, so many of them. -/
def takeHeld (m : Merge α) (count : Nat) : Merge α :=
  { m with out := (m.held.take count).reverse ++ m.out, held := m.held.drop count }

/-- The first items of the other run are taken, so many of them. -/
def takeOther (m : Merge α) (count : Nat) : Merge α :=
  { m with out := (m.other.take count).reverse ++ m.out, other := m.other.drop count }

/-- An item of the other run goes before one of the held run: from either end, the item of the
second run has to be less than that of the first to change its place. -/
def otherFirst (less : Less α ε) : Side → α → α → Except ε Bool
  | .front, held, other => less other held
  | .back, held, other => less held other

/-! ### Walking -/

/-- A win of the held run or of the other one, so many in a row; enough of them start a gallop. -/
def won (m : Merge α) (heldWins otherWins : Nat) : Merge α :=
  if m.isSettled then m
  else if m.patience ≤ heldWins ∨ m.patience ≤ otherWins then
    { m with stride := .gallop, patience := m.patience + 1 }
  else { m with stride := .walk heldWins otherWins }

/-- One item is taken, from the run whose item goes first. -/
def walk (less : Less α ε) (side : Side) (m : Merge α) (heldWins otherWins : Nat) :
    Except ε (Merge α) :=
  match m.held, m.other with
  | x :: _, y :: _ => do
    if ← otherFirst less side x y then return (m.takeOther 1).won 0 (otherWins + 1)
    else return (m.takeHeld 1).won (heldWins + 1) 0
  | _, _ => .ok m

/-! ### Galloping -/

/-- The least number of items that makes a gallop worth while. -/
def worthwhile : Nat := 7

/-- The items of the held run that go before the first one of the other run are taken, and then
that one; the result has the number of the former. -/
def gallopHeld (less : Less α ε) (side : Side) (m : Merge α) : Except ε (Nat × Merge α) :=
  match m.other with
  | [] => .ok (0, m)
  | y :: _ => do
    let count ← gallop (fun x => (otherFirst less side x y).map not) side m.held
    let after := m.takeHeld count
    return (count, if after.isSettled then after else after.takeOther 1)

/-- The items of the other run that go before the first one of the held run are taken, and then
that one; the result has the number of the former. -/
def gallopOther (less : Less α ε) (side : Side) (m : Merge α) : Except ε (Nat × Merge α) :=
  match m.held with
  | [] => .ok (0, m)
  | x :: _ => do
    let count ← gallop (fun y => otherFirst less side x y) side m.other
    let after := m.takeOther count
    return (count, if after.isSettled then after else after.takeHeld 1)

/-- Both runs gallop once, the first one of the list first.  Every gallop makes the merge a little
less patient, and one that did not pay more so. -/
def gallopBoth (less : Less α ε) (side : Side) (m : Merge α) : Except ε (Merge α) := do
  let eager := { m with patience := max 1 (m.patience - 1) }
  let (first, second) := match side with
    | .front => (gallopHeld less side, gallopOther less side)
    | .back => (gallopOther less side, gallopHeld less side)
  let (a, half) ← first eager
  if half.isSettled then return half
  let (b, whole) ← second half
  if whole.isSettled ∨ worthwhile ≤ a ∨ worthwhile ≤ b then return whole
  return { whole with stride := .walk 0 0, patience := whole.patience + 1 }

/-! ### Whole merges -/

/-- One step of a merge. -/
def step (less : Less α ε) (side : Side) (m : Merge α) : Except ε (Merge α) :=
  match m.stride with
  | .walk heldWins otherWins => m.walk less side heldWins otherWins
  | .gallop => m.gallopBoth less side

/-- A merge until it is settled.  Every step takes an item, so that the number of items is fuel
enough. -/
def run (less : Less α ε) (side : Side) : Nat → Merge α → Except ε (Merge α)
  | 0, m => .ok m
  | fuel + 1, m =>
    if m.isSettled then .ok m
    else match m.step less side with
      | .error e => .error e
      | .ok after => run less side fuel after

/-- The merge of a held run with another one whose first item is known to go first. -/
def start (less : Less α ε) (side : Side) (held other : List α) (patience : Nat) :
    Except ε (List α × Nat) := do
  let m : Merge α :=
    { out := [], held := held, other := other, patience := patience, stride := .walk 0 0 }
  let last ← run less side (held.length + other.length) (m.takeOther 1)
  return (last.items, last.patience)

end Merge

/-- Two neighbouring runs merged, and the patience after it.  The items of the first run that go
before all of the second, and those of the second that go after all of the first, stay where they
are. -/
def mergeRuns (less : Less α ε) (patience : Nat) (first second : List α) :
    Except ε (List α × Nat) :=
  match second with
  | [] => .ok (first, patience)
  | y :: _ => do
    let count ← gallop (fun x => (less y x).map not) .front first
    let a := first.drop count
    match a.getLast? with
    | none => return (first ++ second, patience)
    | some last =>
      let behind ← gallop (fun z => (less z last).map not) .back second.reverse
      let kept := second.length - behind
      let b := second.take kept
      if b.isEmpty then return (first ++ second, patience)
      if a.length ≤ b.length then
        let (merged, after) ← Merge.start less .front a b patience
        return (first.take count ++ merged ++ second.drop kept, after)
      else
        let (merged, after) ← Merge.start less .back b.reverse a.reverse patience
        return (first.take count ++ merged.reverse ++ second.drop kept, after)

end ReflexPolicy.Sorting
