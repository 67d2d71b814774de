import ReflexPolicy.Request.Basic

/-!
# Outcomes

The outcome of an evaluation: the confidence floor, the reflexes that fired, the one that blocked
if there is one, and the decisions on citations, the omission scan and context decay.  A `Sheet`
is an outcome whose fields may hold anything, as reports accept it; `Sheet.wire` is its form on
the wire.
-/

namespace ReflexPolicy

/-- A reflex with the score for which it fired or blocked. -/
structure Hit where
  id : Text
  score : Binary64
  deriving DecidableEq

/-- The result of one evaluation. -/
structure Outcome where
  minConfidence : Binary64
  fired : List Hit
  blockedBy : Option Hit
  needCitation : Bool
  runOmissionScan : Bool
  contextExpired : Bool
  codexVersion : Text
  profile : Text

/-- An outcome whose fields have not been checked.  An absent blocking id means that nothing
blocked. -/
structure Sheet where
  minConfidence : Value
  fired : List (Value × Value)
  blockedBy : Value
  needCitation : Value
  runOmissionScan : Value
  contextExpired : Value
  codexVersion : Value
  profile : Value
  blockScore : Value

namespace Sheet

/-- Something blocked. -/
def isBlocked (s : Sheet) : Bool := !s.blockedBy.isNull

/-- The fields of the outcome on the wire, in their order. -/
def fields (s : Sheet) : List (String × Value) :=
  [("minConfidence", s.minConfidence),
    ("fired", .list (s.fired.map fun f => .ofFields [("reflexId", f.1), ("score", f.2)])),
    ("needCitation", s.needCitation),
    ("runOmissionScan", s.runOmissionScan),
    ("contextExpired", s.contextExpired),
    ("codexVersion", s.codexVersion),
    ("profile", s.profile)]
    ++ (if s.isBlocked then [("blockedBy", s.blockedBy)] else [])

/-- The outcome on the wire. -/
def wire (s : Sheet) : Value := .ofFields s.fields

end Sheet

namespace Outcome

/-- The outcome as a sheet. -/
def sheet (o : Outcome) : Sheet where
  minConfidence := .float o.minConfidence
  fired := o.fired.map fun h => (.text h.id, .float h.score)
  blockedBy := match o.blockedBy with
    | some h => .text h.id
    | none => .null
  needCitation := .bool o.needCitation
  runOmissionScan := .bool o.runOmissionScan
  contextExpired := .bool o.contextExpired
  codexVersion := .text o.codexVersion
  profile := .text o.profile
  blockScore := match o.blockedBy with
    | some h => .float h.score
    | none => .null

/-- The outcome on the wire. -/
def wire (o : Outcome) : Value := o.sheet.wire

end Outcome

end ReflexPolicy
