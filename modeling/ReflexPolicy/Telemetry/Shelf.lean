import ReflexPolicy.Telemetry

/-!
# Mappings that are shared

A shelf holds mappings, each at a place.  Whoever knows a place sees all that is changed there.  The
sender of an event knows the place of the payload, and the sink that of the event's mapping, which
is made from copies of the payload.
-/

namespace ReflexPolicy

/-- Mappings at places. -/
abbrev Shelf : Type := List (Entries Scalar Value)

namespace Shelf

/-- The mapping at a place. -/
def mapping (s : Shelf) (place : Nat) : Entries Scalar Value := s[place]?.getD []

/-- The mapping is put at a new place. -/
def add (s : Shelf) (es : Entries Scalar Value) : Nat × Shelf := (s.length, s ++ [es])

/-- The mapping at a place is changed. -/
def change (s : Shelf) (place : Nat) (f : Entries Scalar Value → Entries Scalar Value) : Shelf :=
  s.modify place f

end Shelf

/-- The place of the event's mapping, and the shelf with it.  A copy of the payload is masked, which
gives a mapping at a place of its own, and the fields that it lacks are added there. -/
def Codex.prepare (c : Codex) (payload : Option Nat) (now : Value) (shelf : Shelf) : Nat × Shelf :=
  let (copy, shelf) := shelf.add (payload.elim [] shelf.mapping)
  let (event, shelf) := shelf.add (c.redact (shelf.mapping copy))
  let shelf := shelf.change event (addMissing · "codex_version" (.text c.version))
  let shelf := shelf.change event (addMissing · "timestamp" now)
  (event, shelf)

end ReflexPolicy
