import ReflexPolicy.Sorting.Merge

/-!
# Sorting

`sort` is a stable sort for comparisons that may fail, or that are no order.  It cuts the list into
runs and merges neighbours, so that the merges form a tree that is nearly balanced: every border
between two runs has a depth, and the borders that lie deeper are closed first.  Which comparisons
are made, and in which order, decides where an item that compares with nothing ends up, and which
failing comparison is reported.
-/

namespace ReflexPolicy.Sorting

variable {α ε : Type}

/-- The runs that wait to be merged, the last one first, each with the depth of the border behind
it. -/
abbrev Pending (α : Type) : Type := List (List α × Nat)

/-- The depth of the border between two runs in a list of `total` items: the first binary digit in
which the middles of the runs differ, as fractions of the list.  `a` and `b` are twice the
distances of the middles from the start of the list; the depth is at most the number of binary
digits of the total. -/
def depthFrom (total : Nat) : Nat → Nat → Nat → Nat
  | 0, _, _ => 0
  | fuel + 1, a, b =>
    if total ≤ a then 1 + depthFrom total fuel (2 * (a - total)) (2 * (b - total))
    else if total ≤ b then 1
    else 1 + depthFrom total fuel (2 * a) (2 * b)

/-- The depth of the border between a run of `m` items that starts at a place and the next run, of
`n` items. -/
def depth (total start m n : Nat) : Nat :=
  depthFrom total (total.log2 + 2) (2 * start + m) (2 * start + m + (m + n))

/-- The last two runs merged, as long as the border between them lies deeper than a new one. -/
def close (less : Less α ε) (deepest : Nat) :
    Nat → List α × Nat → Pending α → Except ε (Pending α × Nat)
  | patience, last, [] => .ok ([last], patience)
  | patience, last, before :: rest =>
    if deepest < before.2 then do
      let (merged, after) ← mergeRuns less patience before.1 last.1
      close less deepest after (merged, before.2) rest
    else .ok (last :: before :: rest, patience)

/-- The waiting runs with one more, whose first item stands at a place of the list. -/
def push (less : Less α ε) (total place patience : Nat) (run : List α) :
    Pending α → Except ε (Pending α × Nat)
  | [] => .ok ([(run, 0)], patience)
  | last :: before => do
    let border := depth total (place - last.1.length) last.1.length run.length
    match ← close less border patience last before with
    | (top :: rest, after) => return ((run, 0) :: (top.1, border) :: rest, after)
    | ([], after) => return ([(run, 0)], after)

/-- The runs of the rest of a list put to the waiting ones.  Every run takes an item, so that the
number of items is fuel enough. -/
def pushAll (less : Less α ε) (total : Nat) :
    Nat → Nat → Pending α → List α → Except ε (Pending α × Nat)
  | 0, patience, waiting, _ => .ok (waiting, patience)
  | _, patience, waiting, [] => .ok (waiting, patience)
  | fuel + 1, patience, waiting, xs => do
    let (run, rest) ← firstRun less (leastRun total) xs
    let (after, left) ← push less total (total - xs.length) patience run waiting
    pushAll less total fuel left after rest

/-- The waiting runs merged into one: the last two, or the two before the last when the third
from the end is shorter than the last. -/
def mergeAll (less : Less α ε) : Nat → Nat → Pending α → Except ε (List α)
  | _, _, [] => .ok []
  | _, _, [run] => .ok run.1
  | 0, _, run :: _ => .ok run.1
  | fuel + 1, patience, last :: middle :: [] => do
    let (merged, after) ← mergeRuns less patience middle.1 last.1
    mergeAll less fuel after [(merged, middle.2)]
  | fuel + 1, patience, last :: middle :: before :: rest => do
    if before.1.length < last.1.length then
      let (merged, after) ← mergeRuns less patience before.1 middle.1
      mergeAll less fuel after (last :: (merged, before.2) :: rest)
    else
      let (merged, after) ← mergeRuns less patience middle.1 last.1
      mergeAll less fuel after ((merged, middle.2) :: before :: rest)

/-- The number of wins in a row after which the first merge of a sort gallops. -/
def firstPatience : Nat := Merge.worthwhile

/-- The sorted list. -/
def sort (less : Less α ε) (xs : List α) : Except ε (List α) :=
  match xs with
  | [] => .ok []
  | [a] => .ok [a]
  | _ => do
    let (waiting, patience) ← pushAll less xs.length xs.length firstPatience [] xs
    mergeAll less waiting.length patience waiting

end ReflexPolicy.Sorting
