import ReflexPolicy.Binary64.Basic

/-!
# Clocks

Time is counted in ticks.  A clock says how ticks are added and subtracted, and how far ahead it
looks when it asks what is due.  The exact clock counts whole ticks.  The binary64 clock has ticks
of `2 ^ -1074` seconds, holds every time as a binary64 number, and takes what is due within the
next nanosecond for due.
-/

namespace ReflexPolicy

/-- A way to count ticks. -/
structure Clock where
  /-- The tick so long after another one. -/
  after : Nat → Nat → Nat
  /-- The time from one tick to a later one. -/
  between : Nat → Nat → Nat
  /-- The tick before which everything is due at a tick. -/
  horizon : Nat → Nat

namespace Clock

/-- The clock that counts whole ticks. -/
def exact : Clock where
  after tick span := tick + span
  between earlier later := later - earlier
  horizon tick := tick + 1

/-- The time that the binary64 clock cannot tell apart. -/
def resolution : Nat := roundUnits unitsPerOne (tenTo 9)

/-- The clock that holds times as binary64 numbers of seconds. -/
def binary64 : Clock where
  after tick span := roundUnits (tick + span) 1
  between earlier later := roundUnits (later - earlier) 1
  horizon tick := roundUnits (tick + resolution) 1

end Clock

end ReflexPolicy
