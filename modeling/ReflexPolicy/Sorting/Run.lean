/-!
# Runs

A sort begins by cutting its list into runs.  A run is the longest stretch at the head of a list
that ascends, or that strictly descends and is turned round; one that is too short is filled up by
binary insertion, each item after those that it is not less than.  Comparisons may fail, and may
be no order, so which ones are made, and when, is part of what a run is.
-/

namespace ReflexPolicy.Sorting

variable {α ε : Type}

/-- A comparison that may fail: the first item is less than the second. -/
abbrev Less (α ε : Type) : Type := α → α → Except ε Bool

/-- The longest stretch after `before` in which every item is less than the one before it, or, if
`descending` is false, in which none is; and the items after the stretch. -/
def stretch (less : Less α ε) (descending : Bool) : α → List α → Except ε (List α × List α)
  | _, [] => .ok ([], [])
  | before, x :: xs => do
    if (← less x before) == descending then
      let (inside, after) ← stretch less descending x xs
      return (x :: inside, after)
    else
      return ([], x :: xs)

/-- The place of an item between `low` and `high` in a sorted list, found by halving. -/
def place (less : Less α ε) (item : α) (sorted : List α) (low high : Nat) : Except ε Nat :=
  if low < high then
    let middle := low + (high - low) / 2
    match sorted[middle]? with
    | none => .ok low
    | some other => do
      if ← less item other then
        place less item sorted low middle
      else
        place less item sorted (middle + 1) high
  else
    .ok low
termination_by high - low

/-- An item put in its place. -/
def insert (less : Less α ε) (item : α) (sorted : List α) : Except ε (List α) := do
  let here ← place less item sorted 0 sorted.length
  return sorted.take here ++ item :: sorted.drop here

/-- The items put in their places one after another. -/
def insertAll (less : Less α ε) : List α → List α → Except ε (List α)
  | sorted, [] => .ok sorted
  | sorted, x :: xs => do insertAll less (← insert less x sorted) xs

/-- The stretch at the head of a list, as it ascends, and the items after it. -/
def firstStretch (less : Less α ε) : List α → Except ε (List α × List α)
  | [] => .ok ([], [])
  | [a] => .ok ([a], [])
  | a :: b :: rest => do
    let descending ← less b a
    let (inside, after) ← stretch less descending b rest
    let items := a :: b :: inside
    return (if descending then items.reverse else items, after)

/-- The run at the head of a list, of at least so many items if there are as many, and the items
after it. -/
def firstRun (less : Less α ε) (least : Nat) (xs : List α) : Except ε (List α × List α) := do
  let (items, after) ← firstStretch less xs
  let missing := least - items.length
  return (← insertAll less items (after.take missing), after.drop missing)

/-- The least length of a run in a list of so many items: the number itself below 64, otherwise
its first six binary digits, and one more if any digit behind them is one. -/
def leastRun (count : Nat) : Nat :=
  if count < 64 then count
  else
    let shift := count.log2 - 5
    let head := count >>> shift
    if head <<< shift = count then head else head + 1

end ReflexPolicy.Sorting
