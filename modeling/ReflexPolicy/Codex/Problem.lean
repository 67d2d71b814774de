import ReflexPolicy.Vocabulary

/-!
# Problems of a codex

What can be wrong with a codex document, or with asking a codex for something that it lacks.  Each
problem keeps what it is about; `Problem.message` words it.  The places that problems name are
paths into the document, written with points.
-/

namespace ReflexPolicy

/-- Something wrong with a codex. -/
inductive Problem where
  | notMapping
  | notSemver (version : Text)
  | sectionMissing (name : String)
  | sectionNotMapping (name : String)
  | settingsNotMapping (name : String)
  | notNumber (place : Text) (given : Value)
  | outsideUnit (place : Text) (given : Value)
  | unknownWord (place : Text) (given : Value)
  | tierMissing (tier : Tier)
  | tierUnknown (name : Scalar)
  | floorsDecrease
  | modeMissing (mode : Mode)
  | modeNotMapping (mode : Mode)
  | boostNotNonNegative (mode : Mode)
  | directBoosted
  | reflexNotMapping (id : Scalar)
  | blocksNotMapping (id : Scalar)
  | blockBelowTrigger (id : Scalar) (tier : Tier) (block trigger : Binary64)
  | severityOutside (id : Scalar)
  | profileNotList (name : Scalar)
  | profileEntryNotText (name : Scalar) (given : Value)
  | profileEntryUndefined (name : Scalar) (id : Text)
  | profileEntryTwice (name : Scalar) (id : Text)
  | noDefaultProfile
  | limitNotNonNegative (name : String)
  | profileUndefined (name : Text)
  | refuseAboveHedge
  | redactNotNames (given : Value)
  | noTierPolicy (version : Text) (tier : Tier)
  | noModePolicy (version : Text) (mode : Mode)
  | profileLost (version : Text)
  | unreadable (path reason : String)
  | notYaml (path : String)

namespace Problem

/-- The place of a reflex. -/
def reflexPlace (id : Scalar) : Text := "reflexes." ++ id.plain

/-- The place of a profile. -/
def profilePlace (name : Scalar) : Text := "profiles." ++ name.plain

/-- The problem can be worded: what it is about can be written. -/
def isWritable : Problem → Bool
  | notNumber _ v => v.isWritable
  | outsideUnit _ v => v.isWritable
  | unknownWord _ v => v.isWritable
  | tierUnknown name => name.isWritable
  | reflexNotMapping id => id.isWritable
  | blocksNotMapping id => id.isWritable
  | blockBelowTrigger id _ _ _ => id.isWritable
  | severityOutside id => id.isWritable
  | profileNotList name => name.isWritable
  | profileEntryNotText name v => name.isWritable && v.isWritable
  | profileEntryUndefined name _ => name.isWritable
  | profileEntryTwice name _ => name.isWritable
  | redactNotNames v => v.isWritable
  | _ => true

/-- The wording of a problem. -/
def message : Problem → Text
  | notMapping => "codex document must be a mapping"
  | notSemver version => "codex_version must be semver (got \"" ++ version ++ "\")"
  | sectionMissing name => "missing section '" ++ name ++ "'"
  | sectionNotMapping name => "section '" ++ name ++ "' must be a mapping"
  | settingsNotMapping name => name ++ " must be a mapping"
  | notNumber place v => place ++ " must be a number in [0, 1] (got " ++ v.literal ++ ")"
  | outsideUnit place v => place ++ " must be within [0, 1] (got " ++ v.literal ++ ")"
  | unknownWord place v => place ++ ": unknown value " ++ v.literal
  | tierMissing tier => "tiers missing '" ++ tier.name ++ "'"
  | tierUnknown name => "tiers: unknown tier " ++ name.literal
  | floorsDecrease => "tiers: min_confidence must be non-decreasing from low to high"
  | modeMissing mode => "modes missing '" ++ mode.name ++ "'"
  | modeNotMapping mode => "modes." ++ mode.name ++ " must be a mapping"
  | boostNotNonNegative mode =>
    "modes." ++ mode.name ++ ".confidence_boost must be a non-negative number"
  | directBoosted => "modes.direct.confidence_boost must be 0"
  | reflexNotMapping id => reflexPlace id ++ " must be a mapping"
  | blocksNotMapping id => reflexPlace id ++ ".block_if_over must map tiers to thresholds"
  | blockBelowTrigger id tier block trigger =>
    reflexPlace id ++ ".block_if_over." ++ tier.name ++ " (" ++ block.literal
      ++ ") is below trigger_at (" ++ trigger.literal ++ ")"
  | severityOutside id => reflexPlace id ++ ".severity must be an integer 1-10"
  | profileNotList name => profilePlace name ++ " must list reflex ids"
  | profileEntryNotText name v =>
    profilePlace name ++ " entries must be reflex id strings (got " ++ v.literal ++ ")"
  | profileEntryUndefined name id =>
    profilePlace name ++ " references undefined reflex " ++ quote id
  | profileEntryTwice name id => profilePlace name ++ " lists " ++ quote id ++ " twice"
  | noDefaultProfile => "profiles.default must exist and must not be empty"
  | limitNotNonNegative name => "context_decay." ++ name ++ " must be a non-negative integer"
  | profileUndefined name =>
    "handshake_defaults.reflex_profile " ++ quote name ++ " is not a defined profile"
  | refuseAboveHedge => "failure_semantics.refuse_threshold must not exceed hedge_threshold"
  | redactNotNames v =>
    "telemetry.redact_fields must be a list of field names (got " ++ v.literal ++ ")"
  | noTierPolicy version tier =>
    "codex " ++ version ++ " has no policy for tier '" ++ tier.name ++ "'"
  | noModePolicy version mode =>
    "codex " ++ version ++ " has no policy for mode '" ++ mode.name ++ "'"
  | profileLost version => "codex " ++ version ++ " has no 'default' profile"
  | unreadable path reason => "cannot read codex file " ++ path ++ ": " ++ reason
  | notYaml path => "codex file " ++ path ++ " is not valid YAML"

/-- The wording of all problems of a codex together. -/
def summary (problems : List Problem) : Text :=
  "Invalid codex: " ++ Text.joined "; " (problems.map message)

end Problem

end ReflexPolicy
