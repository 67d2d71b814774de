import ReflexPolicy.Fault

/-!
# The order of values

Numbers, truth values among them, are ordered by value, texts by their letters, dates by the
calendar, and lists by their first items that differ.  Other pairs have no order, and comparing
them is a fault.
-/

namespace ReflexPolicy

/-- A strict comparison of two values. -/
inductive Comparison where
  | less
  | greater
  deriving DecidableEq

namespace Comparison

/-- The sign of a comparison in messages. -/
def sign : Comparison → String
  | less => "<"
  | greater => ">"

/-- The comparison of two things that a relation puts in order. -/
def ofOrder {α : Type} (before : α → α → Bool) (a b : α) : Comparison → Bool
  | less => before a b
  | greater => before b a

end Comparison

namespace Date

/-- The earlier of two dates is less. -/
def before (a b : Date) : Bool := decide (a.parts < b.parts)

end Date

namespace Scalar

/-- The comparison of two scalars, where they have an order. -/
def compare (a b : Scalar) (r : Comparison) : Except Mismatch Bool :=
  match a, b with
  | text s, text t => .ok (r.ofOrder Text.before s t)
  | date d, date e => .ok (r.ofOrder Date.before d e)
  | _, _ => match a.asNumber?, b.asNumber? with
    | some x, some y => .ok (r.ofOrder Number.lt x y)
    | _, _ => .error (.unordered r.sign a.kind b.kind)

end Scalar

namespace Value

mutual

/-- The comparison of two values, where they have an order. -/
def compare (r : Comparison) : Value → Value → Except Mismatch Bool
  | .scalar a, .scalar b => a.compare b r
  | .list as, .list bs => compareItems r as bs
  | a, b => .error (.unordered r.sign a.kind b.kind)

/-- The comparison of lists: that of the first items that differ, or else of the lengths. -/
def compareItems (r : Comparison) : List Value → List Value → Except Mismatch Bool
  | [], [] => .ok false
  | [], _ :: _ => .ok (r == .less)
  | _ :: _, [] => .ok (r == .greater)
  | a :: as, b :: bs => if equals a b then compareItems r as bs else compare r a b

end

/-- `a < b`, where the values have an order. -/
def less (a b : Value) : Except Mismatch Bool := compare .less a b

/-- `a > b`, where the values have an order. -/
def greater (a b : Value) : Except Mismatch Bool := compare .greater a b

end Value

end ReflexPolicy
