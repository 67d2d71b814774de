/-!
# The shipped codex

The document of the codex that is used when no other one is named.
-/

namespace ReflexPolicy.Codex

/-- The lines of the shipped document. -/
def shippedLines : List String := [
  "codex_version: \"1.0.0\"",
  "codex_date: \"2026-10-01\"",
  "description: >",
  "  Baseline reflex policy. Safety-relevant reflexes are ordered first so they",
  "  can block before stylistic reflexes accumulate findings.",
  "",
  "tiers:",
  "  low:",
  "    min_confidence: 0.5",
  "    citation_required: false",
  "    citation_score_floor: 0.9",
  "    omission_scan: false",
  "  medium:",
  "    min_confidence: 0.6",
  "    citation_required: false",
  "    citation_score_floor: 0.8",
  "    omission_scan: true",
  "  high:",
  "    min_confidence: 0.75",
  "    citation_required: true",
  "    citation_score_floor: 0.7",
  "    omission_scan: true",
  "",
  "modes:",
  "  direct:",
  "    confidence_boost: 0.0",
  "    description: Terse answers, minimal qualifiers.",
  "  careful:",
  "    confidence_boost: 0.1",
  "    description: Qualify claims, surface uncertainty.",
  "  recap:",
  "    confidence_boost: 0.05",
  "    description: Summarize and re-anchor the session before continuing.",
  "",
  "reflexes:",
  "  vx-ha01:",
  "    label: Hallucination / implausible claim",
  "    severity: 9",
  "    trigger_at: 0.6",
  "    block_if_over:",
  "      medium: 0.9",
  "      high: 0.85",
  "  vx-em09:",
  "    label: Rhetorical entrapment",
  "    severity: 8",
  "    trigger_at: 0.7",
  "    block_if_over:",
  "      high: 0.9",
  "  vx-da01:",
  "    label: Data-less claim",
  "    severity: 7",
  "    trigger_at: 0.6",
  "  vx-os01:",
  "    label: Omission / one-sided framing",
  "    severity: 6",
  "    trigger_at: 0.55",
  "  vx-fo01:",
  "    label: False urgency",
  "    severity: 6",
  "    trigger_at: 0.65",
  "    suppress_below: medium",
  "  vx-fp01:",
  "    label: False precision",
  "    severity: 5",
  "    trigger_at: 0.7",
  "    suppress_below: medium",
  "  vx-so01:",
  "    label: Speculative overreach",
  "    severity: 4",
  "    trigger_at: 0.6",
  "    suppress_below: medium",
  "",
  "profiles:",
  "  default:",
  "    prioritization_order: [vx-ha01, vx-em09, vx-da01, vx-os01, vx-fo01, vx-fp01, vx-so01]",
  "  strict:",
  "    prioritization_order: [vx-ha01, vx-da01, vx-em09, vx-os01, vx-fp01, vx-fo01, vx-so01]",
  "  lenient:",
  "    prioritization_order: [vx-ha01, vx-em09, vx-da01]",
  "",
  "omission_scan:",
  "  allow_override: false",
  "",
  "context_decay:",
  "  max_turns_without_recap: 12",
  "  max_tokens_since_recap: 4000",
  "  on_expire: recap",
  "",
  "handshake_defaults:",
  "  mode: careful",
  "  tier: medium",
  "  cite_policy: auto",
  "  omission_scan: auto",
  "  reflex_profile: default",
  "",
  "failure_semantics:",
  "  hedge_threshold: 0.4",
  "  refuse_threshold: 0.2",
  "  refuse:",
  "    ui_failover_text: I can't answer that reliably. Here are safer alternatives.",
  "    action: offer_alternatives",
  "  hedge:",
  "    ui_failover_text: I'm not fully confident. Here is what I know and how to verify it.",
  "    action: show_confidence_and_next_steps",
  "  ask_clarify:",
  "    ui_failover_text: Can you clarify what you mean before I answer?",
  "    action: prompt_for_disambiguation",
  "",
  "telemetry:",
  "  enabled: true",
  "  redact_fields: [text, input]"]

/-- The shipped document. -/
def shippedText : List Char := (shippedLines.flatMap fun line => line.toList ++ ['\n'])

end ReflexPolicy.Codex
