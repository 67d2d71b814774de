import ReflexPolicy.Fault

/-!
# Codices

A codex is a validated policy document: confidence floors by risk tier, boosts by mode, the
reflexes with their thresholds, the orders in which profiles look at reflexes, and the settings
of context decay, handshakes, failures and telemetry.
-/

namespace ReflexPolicy

/-- A reflex: a failure mode that detectors score. -/
structure Reflex where
  id : Scalar
  label : Text
  severity : Nat
  /-- The score from which the reflex fires. -/
  triggerAt : Binary64
  /-- The scores from which the reflex blocks, for the tiers that have one. -/
  blockIfOver : Entries Tier Binary64
  /-- The least tier at which the reflex counts at all. -/
  suppressBelow : Option Tier

namespace Reflex

/-- The reflex counts at a tier. -/
def isActive (r : Reflex) (tier : Tier) : Bool :=
  match r.suppressBelow with
  | none => true
  | some least => decide (least.rank ≤ tier.rank)

/-- The score from which the reflex blocks at a tier. -/
def blockAt? (r : Reflex) (tier : Tier) : Option Binary64 := Entries.get? r.blockIfOver tier

end Reflex

/-- The rules of a risk tier. -/
structure TierPolicy where
  minConfidence : Binary64
  citationRequired : Bool
  /-- The top score from which citations are needed. -/
  citationFloor : Binary64
  omissionScan : Bool

/-- The rules of a mode. -/
structure ModePolicy where
  confidenceBoost : Binary64
  description : Text

/-- A named order of reflexes. -/
structure Profile where
  name : Scalar
  order : List Text

/-- How long a session may run without a recap. -/
structure ContextDecay where
  maxTurns : Nat
  maxTokens : Nat
  onExpire : Mode

/-- The settings of a handshake that asks for nothing. -/
structure HandshakeDefaults where
  mode : Mode
  tier : Tier
  citation : CitationOverride
  omission : OmissionOverride
  profile : Text

/-- What is said, and done, when an answer degrades. -/
structure FailureMessage where
  text : Text
  action : Text

/-- The confidences below which answers degrade, and what is then said. -/
structure FailureSemantics where
  hedgeThreshold : Binary64
  refuseThreshold : Binary64
  messages : Entries Text FailureMessage

/-- Whether events are sent, and which of their fields are masked. -/
structure TelemetrySettings where
  enabled : Bool
  redactFields : List Text

/-- A validated policy document. -/
structure Codex where
  version : Text
  date : Text
  description : Text
  reflexes : Entries Scalar Reflex
  tiers : Entries Tier TierPolicy
  modes : Entries Mode ModePolicy
  profiles : Entries Scalar Profile
  contextDecay : ContextDecay
  omissionOverridesAllowed : Bool
  handshakeDefaults : HandshakeDefaults
  failureSemantics : FailureSemantics
  telemetry : TelemetrySettings

/-- The name of the profile that others fall back to. -/
def defaultProfile : String := "default"

namespace Codex

/-- The rules of a tier. -/
def tierPolicy (c : Codex) (tier : Tier) : Except Fault TierPolicy :=
  match Entries.get? c.tiers tier with
  | some p => .ok p
  | none => .error (.invalidCodex [.noTierPolicy c.version tier])

/-- The rules of a mode. -/
def modePolicy (c : Codex) (mode : Mode) : Except Fault ModePolicy :=
  match Entries.get? c.modes mode with
  | some p => .ok p
  | none => .error (.invalidCodex [.noModePolicy c.version mode])

/-- The reflex of an id. -/
def reflex? (c : Codex) (id : Scalar) : Option Reflex := Entries.get? c.reflexes id

/-- The reflex of an id that is a text. -/
def reflexNamed? (c : Codex) (id : Text) : Option Reflex := c.reflex? (.text id)

/-- The profile of a name. -/
def profile? (c : Codex) (name : Scalar) : Option Profile := Entries.get? c.profiles name

/-- The name is that of a profile. -/
def hasProfile (c : Codex) (name : Scalar) : Bool := (c.profile? name).isSome

end Codex

end ReflexPolicy
