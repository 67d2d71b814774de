import ReflexPolicy.Codex.Basic

/-!
# Policy decisions

The decisions that a codex takes: the confidence floor of a tier and a mode, the order in which a
profile looks at reflexes, whether a score blocks or fires, whether citations and an omission
scan are needed, whether a session has run too long, and how an answer degrades.
-/

namespace ReflexPolicy

/-! ### Confidence and order -/

namespace Codex

/-- The confidence floor: that of the tier, raised by the boost of the mode, at most one, and
rounded to six places. -/
def minConfidence (c : Codex) (tier : Tier) (mode : Mode) : Except Fault Binary64 := do
  let t ← c.tierPolicy tier
  let m ← c.modePolicy mode
  return (Binary64.min 1 (t.minConfidence.add m.confidenceBoost)).roundPlaces 6

/-- The profile of a name, or else the default one. -/
def profileFor (c : Codex) (name : Scalar) : Except Fault Profile :=
  match (c.profile? name).or (c.profile? (.text defaultProfile)) with
  | some p => .ok p
  | none => .error (.invalidCodex [.profileLost c.version])

end Codex

/-! ### Verdicts -/

/-- What a score does to an evaluation. -/
inductive Verdict where
  | silent
  | fire
  | block
  deriving DecidableEq

namespace Reflex

/-- The score reaches the blocking threshold of the tier. -/
def blocks (r : Reflex) (tier : Tier) (score : Number) : Bool :=
  match r.blockAt? tier with
  | some b => Number.le (.float b) score
  | none => false

/-- The score reaches the trigger. -/
def fires (r : Reflex) (score : Number) : Bool := Number.le (.float r.triggerAt) score

/-- The verdict on a score at a tier; a reflex that does not count there is silent, and a block
takes the place of a fire. -/
def judge (r : Reflex) (tier : Tier) (score : Number) : Verdict :=
  if !r.isActive tier then .silent
  else if r.blocks tier score then .block
  else if r.fires score then .fire
  else .silent

end Reflex

namespace Codex

/-- The verdict on the score of a reflex; an unknown reflex is silent. -/
def judge (c : Codex) (id : Scalar) (tier : Tier) (score : Number) : Verdict :=
  match c.reflex? id with
  | some r => r.judge tier score
  | none => .silent

end Codex

/-! ### Citations and the omission scan -/

/-- The score that stands for the top score when nothing fired. -/
def neutralScore : Binary64 := 0.5

/-- The highest of some scores: the first that no later one exceeds. -/
def topScore : List Binary64 → Binary64
  | [] => neutralScore
  | s :: rest => rest.foldl Binary64.max s

namespace Codex

/-- Citations are needed: because the caller says so, or, when the caller leaves it open, because
of a claim about the outside world, a high score, or the tier. -/
def needsCitation (c : Codex) (tier : Tier) (top : Number) (external : Bool) :
    CitationOverride → Except Fault Bool
  | .force => .ok true
  | .off => .ok false
  | .auto => do
    let p ← c.tierPolicy tier
    return external || Number.le (.float p.citationFloor) top || p.citationRequired

/-- An omission scan is run: by the rule of the tier, unless the codex lets callers override it
and the caller does. -/
def runsOmissionScan (c : Codex) (tier : Tier) (override : OmissionOverride) :
    Except Fault Bool := do
  let p ← c.tierPolicy tier
  match override with
  | some wanted => return if c.omissionOverridesAllowed then wanted else p.omissionScan
  | none => return p.omissionScan

/-! ### Context decay -/

/-- More turns have passed since the last recap than the codex allows. -/
def exceedsTurns (c : Codex) (turns : Number) : Bool :=
  Number.lt (.whole c.contextDecay.maxTurns) turns

/-- More tokens have passed since the last recap than the codex allows. -/
def exceedsTokens (c : Codex) (tokens : Number) : Bool :=
  Number.lt (.whole c.contextDecay.maxTokens) tokens

/-- The session has run too long without a recap. -/
def isExpired (c : Codex) (turns tokens : Number) : Bool :=
  c.exceedsTurns turns || c.exceedsTokens tokens

/-! ### Failures -/

/-- How an answer of some confidence degrades. -/
def classify (c : Codex) (confidence : Number) : FailureKind :=
  if confidence.le (.float c.failureSemantics.refuseThreshold) then .refuse
  else if confidence.le (.float c.failureSemantics.hedgeThreshold) then .hedge
  else .ok

/-- The message of a failure; an empty one if the codex has none. -/
def failureMessage (c : Codex) (name : Text) : FailureMessage :=
  (Entries.get? c.failureSemantics.messages name).getD { text := "", action := "" }

end Codex

end ReflexPolicy
