import ReflexPolicy.Codex.Basic
import ReflexPolicy.Codex.Reading

/-!
# The sections of a codex document

One reading for each section.  The sections are read independently, but for two links: profiles
may only list the reflexes of the document, and the handshake defaults may only name one of its
profiles.
-/

namespace ReflexPolicy.Codex

/-! ### Risk tiers -/

/-- The rules of one tier. -/
def readTier (es : Entries Scalar Value) (tier : Tier) : Reading (List (Tier × TierPolicy)) :=
  match Value.field es tier.name with
  | .map raw => do
    let place := "tiers." ++ tier.name
    let floor ← readUnit (place ++ ".min_confidence") 0 (Value.field raw "min_confidence")
    let citation ← readUnit (place ++ ".citation_score_floor") 1
      (Value.fieldD raw "citation_score_floor" (.float 1))
    return [(tier,
      { minConfidence := floor
        citationRequired := (Value.field raw "citation_required").truthy
        citationFloor := citation
        omissionScan := (Value.field raw "omission_scan").truthy })]
  | _ => .instead [] (.tierMissing tier)

/-- The numbers do not decrease. -/
def nonDecreasing : List Binary64 → Bool
  | a :: b :: rest => a.le b && nonDecreasing (b :: rest)
  | _ => true

/-- The rules of the tiers; a higher risk never lowers the confidence floor. -/
def readTiers (doc : Entries Scalar Value) : Reading (Entries Tier TierPolicy) := do
  let es ← readSection doc "tiers"
  let parts ← Reading.each (readTier es) Tier.all
  let tiers := parts.flatten
  let _ ← Reading.each
    (fun k => Reading.require (Tier.all.any fun t => k.same (.text t.name)) (.tierUnknown k))
    (Entries.keys es)
  Reading.require
    (tiers.length != Tier.all.length || nonDecreasing (tiers.map fun t => t.2.minConfidence))
    .floorsDecrease
  return tiers

/-! ### Modes -/

/-- A confidence boost: any number that is not below zero. -/
def readBoost (mode : Mode) (v : Value) : Reading Binary64 :=
  match v.number? with
  | none => .instead 0 (.boostNotNonNegative mode)
  | some n =>
    if n.lt (.whole 0) then .instead 0 (.boostNotNonNegative mode)
    else match n.toBinary64? with
      | none => .error .tooLarge
      | some x => .pure x

/-- The rules of one mode. -/
def readMode (es : Entries Scalar Value) (mode : Mode) : Reading (List (Mode × ModePolicy)) :=
  match Value.field es mode.name with
  | .null => .instead [] (.modeMissing mode)
  | .map raw => do
    let boost ← readBoost mode (Value.fieldD raw "confidence_boost" (.float 0))
    let description ← readText (Value.fieldD raw "description" (.text ""))
    return [(mode, { confidenceBoost := boost, description := description })]
  | _ => .instead [] (.modeNotMapping mode)

/-- A number is zero. -/
def isZero (x : Binary64) : Bool := x.le 0 && Binary64.le 0 x

/-- The rules of the modes; the direct mode has no boost. -/
def readModes (doc : Entries Scalar Value) : Reading (Entries Mode ModePolicy) := do
  let es ← readSection doc "modes"
  let parts ← Reading.each (readMode es) Mode.all
  let modes := parts.flatten
  Reading.require
    (match Entries.get? modes .direct with
      | some p => isZero p.confidenceBoost
      | none => true)
    .directBoosted
  return modes

/-! ### Reflexes -/

/-- One blocking threshold, which may not be below the trigger. -/
def readBlock (id : Scalar) (trigger : Binary64) (entry : Scalar × Value) :
    Reading (List (Tier × Binary64)) := do
  let place := Problem.reflexPlace id ++ ".block_if_over"
  match ← readWord Tier.parse place (.scalar entry.1) with
  | none => return []
  | some tier =>
    let block ← readUnit (place ++ "." ++ tier.name) 1 entry.2
    Reading.require (!block.lt trigger) (.blockBelowTrigger id tier block trigger)
    return [(tier, block)]

/-- The blocking thresholds of a reflex; a later spelling of a tier replaces an earlier one. -/
def readBlocks (id : Scalar) (trigger : Binary64) (v : Value) :
    Reading (Entries Tier Binary64) := do
  let es ← if !v.truthy then Reading.pure []
    else match v with
      | .map es => Reading.pure es
      | _ => Reading.instead [] (.blocksNotMapping id)
  let blocks ← Reading.each (readBlock id trigger) es
  return Entries.ofList blocks.flatten

/-- The least tier at which a reflex counts. -/
def readSuppression (id : Scalar) : Value → Reading (Option Tier)
  | .null => .pure none
  | v => readWord Tier.parse (Problem.reflexPlace id ++ ".suppress_below") v

/-- A severity from 1 to 10. -/
def readSeverity (id : Scalar) : Value → Reading Nat
  | .int n => if 1 ≤ n ∧ n ≤ 10 then .pure n.toNat else .instead 5 (.severityOutside id)
  | _ => .instead 5 (.severityOutside id)

/-- One reflex whose id can be written. -/
def readReflexOf (id : Scalar) (v : Value) : Reading (List (Scalar × Reflex)) :=
  match v with
  | .map raw => do
    let trigger ← readUnit (Problem.reflexPlace id ++ ".trigger_at") 0
      (Value.field raw "trigger_at")
    let blocks ← readBlocks id trigger (Value.field raw "block_if_over")
    let suppressBelow ← readSuppression id (Value.field raw "suppress_below")
    let severity ← readSeverity id (Value.fieldD raw "severity" (.int 5))
    let label ← readText (Value.fieldD raw "label" (.scalar id))
    return [(id,
      { id := id
        label := label
        severity := severity
        triggerAt := trigger
        blockIfOver := blocks
        suppressBelow := suppressBelow })]
  | _ => .instead [] (.reflexNotMapping id)

/-- One reflex. -/
def readReflex (entry : Scalar × Value) : Reading (List (Scalar × Reflex)) := do
  let _ ← readText (.scalar entry.1)
  readReflexOf entry.1 entry.2

/-- The reflexes, in the order of the document. -/
def readReflexes (doc : Entries Scalar Value) : Reading (Entries Scalar Reflex) := do
  let es ← readSection doc "reflexes"
  let parts ← Reading.each readReflex es
  return parts.flatten

/-! ### Profiles -/

/-- The reflex ids of a profile, each a text, defined and listed once.  `seen` holds the ids
before. -/
def readOrder (reflexes : List Scalar) (name : Scalar) :
    List Text → List Value → Reading (List Text)
  | _, [] => .pure []
  | seen, .text id :: rest => do
    Reading.require (reflexes.any (·.same (.text id))) (.profileEntryUndefined name id)
    Reading.require (!seen.contains id) (.profileEntryTwice name id)
    let ids ← readOrder reflexes name (id :: seen) rest
    return id :: ids
  | seen, v :: rest => do
    Reading.note (.profileEntryNotText name v)
    readOrder reflexes name seen rest

/-- The list of a profile: the profile itself, or a field of it. -/
def orderOf : Value → Value
  | .map es => Value.field es "prioritization_order"
  | v => v

/-- One profile. -/
def readProfile (reflexes : List Scalar) (entry : Scalar × Value) :
    Reading (List (Scalar × Profile)) :=
  match orderOf entry.2 with
  | .list items => do
    let order ← readOrder reflexes entry.1 [] items
    return [(entry.1, { name := entry.1, order := order })]
  | _ => .instead [] (.profileNotList entry.1)

/-- The document has a profile of that name with something in its list. -/
def listsSomething (es : Entries Scalar Value) (name : String) : Bool :=
  match orderOf (Value.field es name) with
  | .list (_ :: _) => true
  | _ => false

/-- The profiles, in the order of the document; the default one has to be there. -/
def readProfiles (doc : Entries Scalar Value) (reflexes : List Scalar) :
    Reading (Entries Scalar Profile) := do
  let es ← readSection doc "profiles"
  let parts ← Reading.each (readProfile reflexes) es
  Reading.require (listsSomething es defaultProfile) .noDefaultProfile
  return parts.flatten

/-! ### Context decay -/

/-- A limit: a whole number that is not below zero.  An empty section has no limits, and none is
asked of it. -/
def readLimit (es : Entries Scalar Value) (name : String) : Reading Nat :=
  match Value.field es name with
  | .int n =>
    if 0 ≤ n then .pure n.toNat
    else Reading.bind (Reading.require es.isEmpty (.limitNotNonNegative name)) fun _ => .pure 0
  | _ => Reading.bind (Reading.require es.isEmpty (.limitNotNonNegative name)) fun _ => .pure 0

/-- The limits of a session without a recap, and the mode after them. -/
def readContextDecay (doc : Entries Scalar Value) : Reading ContextDecay := do
  let es ← readSection doc "context_decay"
  let turns ← readLimit es "max_turns_without_recap"
  let tokens ← readLimit es "max_tokens_since_recap"
  let mode ← readWord Mode.parse "context_decay.on_expire"
    (Value.fieldD es "on_expire" (.text "recap"))
  return { maxTurns := turns, maxTokens := tokens, onExpire := mode.getD .recap }

/-! ### Settings -/

/-- The handshake defaults of a document that has none. -/
def plainHandshakeDefaults : HandshakeDefaults :=
  { mode := .careful, tier := .medium, citation := .auto, omission := none,
    profile := defaultProfile }

/-- The handshake defaults; the profile has to be one of the document, if it has any. -/
def readHandshakeDefaults (doc : Entries Scalar Value) (profiles : List Scalar) :
    Reading HandshakeDefaults := do
  match ← readSettings doc "handshake_defaults" with
  | none => return plainHandshakeDefaults
  | some es =>
    let base := plainHandshakeDefaults
    let mode ← readWord Mode.parse "handshake_defaults.mode"
      (Value.fieldD es "mode" (.text base.mode.name))
    let tier ← readWord Tier.parse "handshake_defaults.tier"
      (Value.fieldD es "tier" (Value.fieldD es "stakes" (.text base.tier.name)))
    let citation ← readWord CitationOverride.parse "handshake_defaults.cite_policy"
      (Value.fieldD es "cite_policy" (.text "auto"))
    let omission ← readWord OmissionOverride.parse "handshake_defaults.omission_scan"
      (Value.fieldD es "omission_scan" (.text "auto"))
    let profile ← readText (Value.fieldD es "reflex_profile" (.text defaultProfile))
    Reading.require (profiles.isEmpty || profiles.any (·.same (.text profile)))
      (.profileUndefined profile)
    return { mode := mode.getD base.mode
             tier := tier.getD base.tier
             citation := citation.getD base.citation
             omission := omission.getD none
             profile := profile }

/-- The failures that a document may have a message for. -/
def failureNames : List String := ["refuse", "hedge", "ask_clarify"]

/-- The message of a failure, if the document has one. -/
def readFailure (es : Entries Scalar Value) (name : String) :
    Reading (List (Text × FailureMessage)) :=
  match Value.field es name with
  | .map raw => do
    let text ← readText
      (Value.fieldD raw "ui_failover_text" (Value.fieldD raw "text" (.text "")))
    let action ← readText (Value.fieldD raw "action" (.text ""))
    return [(name, { text := text, action := action })]
  | _ => .pure []

/-- The thresholds of failures, with the refusal not above the hedge, and their messages. -/
def readFailureSemantics (doc : Entries Scalar Value) : Reading FailureSemantics := do
  match ← readSettings doc "failure_semantics" with
  | none => return { hedgeThreshold := 0.4, refuseThreshold := 0.2, messages := [] }
  | some es =>
    let hedge ← readUnit "failure_semantics.hedge_threshold" 0.4
      (Value.fieldD es "hedge_threshold" (.float 0.4))
    let refuse ← readUnit "failure_semantics.refuse_threshold" 0.2
      (Value.fieldD es "refuse_threshold" (.float 0.2))
    Reading.require (!hedge.lt refuse) .refuseAboveHedge
    let messages ← Reading.each (readFailure es) failureNames
    return { hedgeThreshold := hedge
             refuseThreshold := refuse
             messages := messages.flatten }

/-- The texts of a list of texts. -/
def texts? : List Value → Option (List Text)
  | [] => some []
  | .text s :: rest => (texts? rest).map (s :: ·)
  | _ => none

/-- A list of field names; anything that counts as false is the empty list. -/
def readNames (v : Value) : Reading (List Text) :=
  if !v.truthy then .pure []
  else match v.items?.bind texts? with
    | some names => .pure names
    | none => .instead [] (.redactNotNames v)

/-- The settings of telemetry. -/
def readTelemetry (doc : Entries Scalar Value) : Reading TelemetrySettings := do
  match ← readSettings doc "telemetry" with
  | none => return { enabled := true, redactFields := [] }
  | some es =>
    let names ← readNames (Value.field es "redact_fields")
    return { enabled := (Value.fieldD es "enabled" (.bool true)).truthy
               && (Value.fieldD es "emit_events" (.bool true)).truthy
             redactFields := names.eraseDups }

/-- The document lets callers override the omission scan. -/
def allowsOmissionOverrides (doc : Entries Scalar Value) : Bool :=
  match Value.field doc "omission_scan" with
  | .map es => (Value.field es "allow_override").truthy
  | _ => false

end ReflexPolicy.Codex
