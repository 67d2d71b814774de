/-!
# Galloping

`gallop` counts the items at the head of a list that pass a test which, on a sorted list, passes
up to some item and no further.  It looks at items further and further away until one fails, and
then halves the stretch in between.
-/

namespace ReflexPolicy.Sorting

variable {α ε : Type}

/-- The end of a run that galloping starts from. -/
inductive Side where
  | front
  | back
  deriving DecidableEq

/-- The item of a list passes a test; there is none behind the end. -/
def passes (test : α → Except ε Bool) (xs : List α) (i : Nat) : Except ε Bool :=
  match xs[i]? with
  | some x => test x
  | none => .ok false

/-- The place behind the last item that was seen to pass, and the first one that was seen to fail
or the end of the list.  `next` is the next place to look at. -/
def leap (test : α → Except ε Bool) (xs : List α) (known next : Nat) : Except ε (Nat × Nat) :=
  if next < xs.length then do
    if ← passes test xs next then leap test xs (next + 1) (2 * next + 1)
    else return (known, next)
  else
    .ok (known, xs.length)
termination_by xs.length - next

/-- The middle of the places between `low` and `high`, counted from the front of the run whichever
side the places are counted from. -/
def middleOf (side : Side) (low high : Nat) : Nat :=
  match side with
  | .front => low + (high - low) / 2
  | .back => high - 1 - (high - low) / 2

/-- The place between `low` and `high` where a list begins to fail a test, found by halving. -/
def halve (test : α → Except ε Bool) (side : Side) (xs : List α) (low high : Nat) :
    Except ε Nat :=
  let middle := middleOf side low high
  if low ≤ middle ∧ middle < high then do
    if ← passes test xs middle then halve test side xs (middle + 1) high
    else halve test side xs low middle
  else
    .ok low
termination_by high - low

/-- The number of items at the head of a list that pass a test. -/
def gallop (test : α → Except ε Bool) (side : Side) (xs : List α) : Except ε Nat := do
  if ← passes test xs 0 then
    let (low, high) ← leap test xs 1 1
    halve test side xs low high
  else
    return 0

end ReflexPolicy.Sorting
