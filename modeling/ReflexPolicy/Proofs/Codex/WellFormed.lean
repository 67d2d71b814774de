import Mathlib.Tactic.Common
import ReflexPolicy.Codex.Document
import ReflexPolicy.Proofs.Binary64.Order

/-!
# Well-formed codices

What the decisions of a policy rely on.  A `Codex` can be written down in any way; a well-formed
one has the rules of every tier and mode, floors that rise with the risk, thresholds of the unit
interval in their order, orders of defined reflexes, and the profiles that others fall back to.
-/

namespace ReflexPolicy

/-- The thresholds of a reflex lie in the unit interval, no block below the trigger, and its
severity lies between 1 and 10. -/
structure Reflex.WellFormed (r : Reflex) : Prop where
  trigger : r.triggerAt.isUnit = true
  severity : 1 ≤ r.severity ∧ r.severity ≤ 10
  blocks : ∀ e ∈ r.blockIfOver, e.2.isUnit = true ∧ r.triggerAt.le e.2 = true

/-- A codex that a policy can rely on. -/
structure Codex.WellFormed (c : Codex) : Prop where
  tiers : ∀ t, ∃ p, Entries.get? c.tiers t = some p ∧ p.minConfidence.isUnit = true
    ∧ p.citationFloor.isUnit = true
  floors : ∀ s t p q, s.rank ≤ t.rank → Entries.get? c.tiers s = some p →
    Entries.get? c.tiers t = some q → p.minConfidence.le q.minConfidence = true
  modes : ∀ m, ∃ p, Entries.get? c.modes m = some p
  direct : ∀ p, Entries.get? c.modes .direct = some p →
    p.confidenceBoost.extended? = some (.units 0)
  reflexes : ∀ e ∈ c.reflexes, e.2.WellFormed
  orders : ∀ e ∈ c.profiles, e.2.order.Nodup
    ∧ ∀ id ∈ e.2.order, Entries.has c.reflexes (.text id) = true
  default : ∃ p, c.profile? (.text defaultProfile) = some p ∧ p.order ≠ []
  failures : Binary64.le 0 c.failureSemantics.refuseThreshold = true
    ∧ c.failureSemantics.refuseThreshold.le c.failureSemantics.hedgeThreshold = true
    ∧ c.failureSemantics.hedgeThreshold.le 1 = true
  handshake : c.hasProfile (.text c.handshakeDefaults.profile) = true

/-- The codex leaves out nothing of the lists of its document and makes up no limit: its orders
and its hidden fields are lists of texts of the document, and its limits whole numbers of it,
unless the section of the limits is empty. -/
structure Codex.IsOf (c : Codex) (doc : Entries Scalar Value) : Prop where
  orders : ∃ es, Value.field doc "profiles" = .map es ∧ ∀ e ∈ c.profiles, ∃ v, (e.1, v) ∈ es
    ∧ orderOf v = .list (e.2.order.map Value.text)
  limits : ∃ es, Value.field doc "context_decay" = .map es
    ∧ (Value.field es "max_turns_without_recap" = .int c.contextDecay.maxTurns
      ∨ es = [] ∧ c.contextDecay.maxTurns = 0)
    ∧ (Value.field es "max_tokens_since_recap" = .int c.contextDecay.maxTokens
      ∨ es = [] ∧ c.contextDecay.maxTokens = 0)
  hidden : c.telemetry.redactFields = [] ∨ ∃ es, ∃ names : List Text,
    Value.field doc "telemetry" = .map es
    ∧ Value.field es "redact_fields" = .list (names.map Value.text)
    ∧ ∀ name, name ∈ c.telemetry.redactFields ↔ name ∈ names

end ReflexPolicy
