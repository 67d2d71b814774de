import ReflexPolicy.Proofs.Codex.Version
import ReflexPolicy.Proofs.Codex.WellFormed

/-!
# Writing a codex down

The document of a codex, with its sections and their fields in the order of the shipped one.  What
a document may have in more than one way is left to a `Layout`: the number that stands for a
binary64 number, and the form of a profile.  A codex that can be written down so that it is read
back is canonical: it is well-formed, its rules are listed by tier and by mode, and its reflexes
and profiles are kept under their own names, which are texts.
-/

namespace ReflexPolicy

/-- How a document is laid out where there is a choice. -/
structure Layout where
  /-- The number that is written at a place for a binary64 number. -/
  number : Text → Binary64 → Number
  reads : ∀ place x, (number place x).toBinary64? = some x
  /-- The profile is written as a list, and not as a mapping with the list in it. -/
  isBare : Scalar → Bool

namespace Layout

variable (l : Layout)

/-- The value that is written at a place for a binary64 number. -/
def float (place : Text) (x : Binary64) : Value := .number (l.number place x)

/-- The rules of a tier as they are written. -/
def tier (e : Tier × TierPolicy) : Value :=
  let place := "tiers." ++ e.1.name
  .ofFields [
    ("min_confidence", l.float (place ++ ".min_confidence") e.2.minConfidence),
    ("citation_required", .bool e.2.citationRequired),
    ("citation_score_floor", l.float (place ++ ".citation_score_floor") e.2.citationFloor),
    ("omission_scan", .bool e.2.omissionScan)]

/-- The rules of a mode as they are written. -/
def mode (e : Mode × ModePolicy) : Value :=
  .ofFields [
    ("confidence_boost",
      l.float ("modes." ++ e.1.name ++ ".confidence_boost") e.2.confidenceBoost),
    ("description", .text e.2.description)]

/-- The blocking thresholds of a reflex as they are written. -/
def blocks (r : Reflex) : Entries Scalar Value :=
  r.blockIfOver.map fun e =>
    (.text e.1.name, l.float (Problem.reflexPlace r.id ++ ".block_if_over." ++ e.1.name) e.2)

/-- A reflex as it is written.  What a reflex need not have is left out when it does not. -/
def reflex (r : Reflex) : Value :=
  .ofFields ([
      ("label", .text r.label),
      ("severity", .int r.severity),
      ("trigger_at", l.float (Problem.reflexPlace r.id ++ ".trigger_at") r.triggerAt)]
    ++ (if r.blockIfOver.isEmpty then [] else [("block_if_over", .map (l.blocks r))])
    ++ r.suppressBelow.toList.map fun t => ("suppress_below", .text t.name))

/-- A profile as it is written. -/
def profile (p : Profile) : Value :=
  let order : Value := .list (p.order.map Value.text)
  if l.isBare p.name then order else .ofFields [("prioritization_order", order)]

/-- The limits of a session as they are written. -/
def contextDecay (d : ContextDecay) : Value :=
  .ofFields [
    ("max_turns_without_recap", .int d.maxTurns),
    ("max_tokens_since_recap", .int d.maxTokens),
    ("on_expire", .text d.onExpire.name)]

/-- An omission override as it is written. -/
def omission : OmissionOverride → Value
  | none => .text "auto"
  | some b => .bool b

/-- The handshake defaults as they are written. -/
def handshakeDefaults (d : HandshakeDefaults) : Value :=
  .ofFields [
    ("mode", .text d.mode.name),
    ("tier", .text d.tier.name),
    ("cite_policy", .text d.citation.name),
    ("omission_scan", omission d.omission),
    ("reflex_profile", .text d.profile)]

/-- The message of a failure as it is written. -/
def failureMessage (m : FailureMessage) : Value :=
  .ofFields [("ui_failover_text", .text m.text), ("action", .text m.action)]

/-- The thresholds of failures and their messages as they are written. -/
def failureSemantics (f : FailureSemantics) : Value :=
  .map ([
      (.text "hedge_threshold", l.float "failure_semantics.hedge_threshold" f.hedgeThreshold),
      (.text "refuse_threshold", l.float "failure_semantics.refuse_threshold" f.refuseThreshold)]
    ++ f.messages.map fun e => (.text e.1, failureMessage e.2))

/-- The settings of telemetry as they are written. -/
def telemetry (t : TelemetrySettings) : Value :=
  .ofFields [("enabled", .bool t.enabled),
    ("redact_fields", .list (t.redactFields.map Value.text))]

/-- The document of a codex. -/
def document (c : Codex) : Entries Scalar Value := [
  (.text "codex_version", .text c.version),
  (.text "codex_date", .text c.date),
  (.text "description", .text c.description),
  (.text "tiers", .map (c.tiers.map fun e => (.text e.1.name, l.tier e))),
  (.text "modes", .map (c.modes.map fun e => (.text e.1.name, l.mode e))),
  (.text "reflexes", .map (c.reflexes.map fun e => (e.1, l.reflex e.2))),
  (.text "profiles", .map (c.profiles.map fun e => (e.1, l.profile e.2))),
  (.text "omission_scan", .ofFields [("allow_override", .bool c.omissionOverridesAllowed)]),
  (.text "context_decay", contextDecay c.contextDecay),
  (.text "handshake_defaults", handshakeDefaults c.handshakeDefaults),
  (.text "failure_semantics", l.failureSemantics c.failureSemantics),
  (.text "telemetry", telemetry c.telemetry)]

end Layout

namespace Codex

/-- A codex that can be written down. -/
structure IsCanonical (c : Codex) : Prop extends c.WellFormed where
  version : c.version.IsSemver
  tierNames : Entries.keys c.tiers = Tier.all
  modeNames : Entries.keys c.modes = Mode.all
  boosts : ∀ e ∈ c.modes, Binary64.le 0 e.2.confidenceBoost = true
  ids : ∀ e ∈ c.reflexes, (∃ id : Text, e.1 = .text id) ∧ e.2.id = e.1
  blockTiers : ∀ e ∈ c.reflexes, e.2.blockIfOver.IsDistinct
  profileNames : ∀ e ∈ c.profiles, (∃ name : Text, e.1 = .text name) ∧ e.2.name = e.1
  messageNames : (Entries.keys c.failureSemantics.messages).Sublist (failureNames.map Text.ofString)

/-- The codex with each of its hidden fields listed once. -/
def withoutRepeats (c : Codex) : Codex :=
  { c with telemetry := { c.telemetry with redactFields := c.telemetry.redactFields.eraseDups } }

end Codex

end ReflexPolicy
