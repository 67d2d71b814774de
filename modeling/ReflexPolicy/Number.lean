import ReflexPolicy.Binary64.Text

/-!
# Numbers

A number is a whole number of any size or a binary64 number.  The two kinds are kept apart, for
they are written differently, and compared by their exact values.
-/

namespace ReflexPolicy

/-- A whole number or a binary64 number. -/
inductive Number where
  | whole (n : Int)
  | float (x : Binary64)
  deriving DecidableEq

namespace Number

/-- The place of a number on the line. -/
def extended? : Number → Option Extended
  | whole n => some (.units (n * unitsPerOne))
  | float x => x.extended?

/-- `a ≤ b`, false when either is not a number. -/
def le (a b : Number) : Bool := Extended.holds Extended.le a.extended? b.extended?

/-- `a < b`, false when either is not a number. -/
def lt (a b : Number) : Bool := Extended.holds Extended.lt a.extended? b.extended?

/-- The numbers have the same value. -/
def equals (a b : Number) : Bool := a.le b && b.le a

/-- The binary64 number of the same or the nearest value, unless it is beyond the format. -/
def toBinary64? : Number → Option Binary64
  | whole n => Binary64.ofInt? n
  | float x => some x

/-- The number with its sign changed. -/
def neg : Number → Number
  | whole n => whole (-n)
  | float x => float x.neg

/-- The most digits that a whole number is written with. -/
def digitLimit : Nat := 4300

/-- The number can be written: a whole number has a limit on its digits. -/
def isWritable : Number → Bool
  | whole n => decide (n.natAbs < tenTo digitLimit)
  | float _ => true

/-- The written form that reads back. -/
def literal : Number → String
  | whole n => toString n
  | float x => x.literal

theorem le_float (a b : Binary64) :
  le (float a) (float b) = a.le b
  := rfl

end Number

end ReflexPolicy
