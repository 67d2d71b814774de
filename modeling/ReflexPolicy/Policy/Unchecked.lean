import ReflexPolicy.Policy.Basic
import ReflexPolicy.Value.Order

/-!
# Policy decisions on unchecked values

The same decisions, taken on values that nobody has checked.  Truth values count as numbers, and
a value that has no place among the numbers is a fault, but only where the decision looks at it.
-/

namespace ReflexPolicy

/-- A value that is compared with a number. -/
def comparable (relation other : String) (v : Value) : Except Fault Number :=
  match v.asNumber? with
  | some n => .ok n
  | none => .error (.mismatch (.unordered relation v.kind other))

/-- A value that is looked up in a mapping. -/
def keyOf (v : Value) : Except Fault Scalar :=
  match v.key? with
  | some k => .ok k
  | none => .error (.mismatch (.noKey v.kind))

namespace Codex

/-- The order of a profile; a value that counts as false asks for the default one. -/
def orderFor (c : Codex) (name : Value) : Except Fault (List Text) := do
  let key ← if name.truthy then keyOf name else .ok (.text defaultProfile)
  return (← c.profileFor key).order

/-- The verdict on a score. -/
def judgeUnchecked (c : Codex) (id : Value) (tier : Tier) (score : Value) :
    Except Fault Verdict := do
  let key ← keyOf id
  match (c.reflex? key).filter (·.isActive tier) with
  | none => return .silent
  | some r => return r.judge tier (← comparable ">=" "float" score)

/-- Citations are needed. -/
def needsCitationUnchecked (c : Codex) (tier : Tier) (top external : Value)
    (override : CitationOverride) : Except Fault Bool := do
  match override with
  | .auto =>
    let _ ← c.tierPolicy tier
    let n ← if external.truthy then .ok (.whole 0) else comparable ">=" "float" top
    c.needsCitation tier n external.truthy .auto
  | settled => c.needsCitation tier (.whole 0) external.truthy settled

/-- An omission scan is run; any value but the absent one overrides by its truth. -/
def runsOmissionScanUnchecked (c : Codex) (tier : Tier) (override : Value) : Except Fault Bool :=
  c.runsOmissionScan tier (if override.isNull then none else some override.truthy)

/-- The session has run too long without a recap. -/
def isExpiredUnchecked (c : Codex) (turns tokens : Value) : Except Fault Bool := do
  if c.exceedsTurns (← comparable ">" "int" turns) then return true
  return c.exceedsTokens (← comparable ">" "int" tokens)

/-- How an answer of some confidence degrades. -/
def classifyUnchecked (c : Codex) (confidence : Value) : Except Fault FailureKind := do
  return c.classify (← comparable "<=" "float" confidence)

end Codex

/-- The largest of some values, the first of those that no later one exceeds. -/
def topValue : Value → List Value → Except Fault Value
  | best, [] => .ok best
  | best, v :: rest =>
    match v.greater best with
    | .ok larger => topValue (if larger then v else best) rest
    | .error m => .error (.mismatch m)

/-- The highest of some scores, or the neutral one when there are none. -/
def topScoreUnchecked : List Value → Except Fault Value
  | [] => .ok (.float neutralScore)
  | v :: rest => topValue v rest

end ReflexPolicy
