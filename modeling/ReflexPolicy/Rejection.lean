import ReflexPolicy.Value.Literal

/-!
# Rejections

A `Rejection` says why a request, a setting or a score was turned away before anything was
decided.  Each cause keeps the value it is about; `Rejection.message` words it.
-/

namespace ReflexPolicy

/-- Why an input was turned away. -/
inductive Rejection where
  | unknownTier (given : Value)
  | unknownMode (given : Value)
  | unknownCitation (given : Value)
  | unknownOmission (given : Value)
  | scoreNotNumeric (id given : Value)
  | scoreOutside (id given : Value)
  | inputNotMapping
  | tierMissing
  | modeMissing
  | ageNotMapping
  | notRequest (kind : String)
  | scoresNotMapping
  | reflexIdNotText (given : Scalar)
  | notAge
  | notNonNegative (name : String) (given : Value)
  | notWhole (name : String) (given : Value)
  | externalNotBool (given : Value)
  | profileNotText (given : Value)
  | confidenceOutside (given : Value)
  | unknownProfile (given : Value)
  | unknownField (name : Text)

/-- The rejection can be worded: what it is about can be written. -/
def Rejection.isWritable : Rejection → Bool
  | unknownTier v => v.isWritable
  | unknownMode v => v.isWritable
  | unknownCitation v => v.isWritable
  | unknownOmission v => v.isWritable
  | scoreNotNumeric id v => id.isWritable && v.isWritable
  | scoreOutside id v => id.isWritable && v.isWritable
  | reflexIdNotText k => k.isWritable
  | notNonNegative _ v => v.isWritable
  | notWhole _ v => v.isWritable
  | externalNotBool v => v.isWritable
  | profileNotText v => v.isWritable
  | confidenceOutside v => v.isWritable
  | unknownProfile v => v.isWritable
  | _ => true

/-- The wording of a rejection. -/
def Rejection.message : Rejection → String
  | unknownTier v => "Unknown risk tier: " ++ v.literal
  | unknownMode v => "Unknown mode: " ++ v.literal
  | unknownCitation v => "Unknown citation override: " ++ v.literal
  | unknownOmission v => "Unknown omission scan override: " ++ v.literal
  | scoreNotNumeric id v => "Score for " ++ id.literal ++ " is not numeric: " ++ v.literal
  | scoreOutside id v =>
    "Score for " ++ id.literal ++ " must be within [0, 1], got " ++ v.literal
  | inputNotMapping => "Evaluation input must be a mapping"
  | tierMissing => "Evaluation input is missing 'tier'"
  | modeMissing => "Evaluation input is missing 'mode'"
  | ageNotMapping => "contextAge must be a mapping"
  | notRequest kind => "Expected EvaluationRequest, got " ++ kind
  | scoresNotMapping => "scores must be a mapping of reflex id to score"
  | reflexIdNotText k => "Reflex ids must be strings, got " ++ k.literal
  | notAge => "context_age must be a ContextAge"
  | notNonNegative name v => name ++ " must be a non-negative integer, got " ++ v.literal
  | notWhole name v => name ++ " must be a whole number, got " ++ v.literal
  | externalNotBool v => "external_claim must be a boolean, got " ++ v.literal
  | profileNotText v => "profile must be a non-empty string, got " ++ v.literal
  | confidenceOutside v => "min_confidence must be a number in [0, 1], got " ++ v.literal
  | unknownProfile v => "Unknown reflex profile: " ++ v.literal
  | unknownField name => "unknown handshake field " ++ quote name

end ReflexPolicy
