import ReflexPolicy.Proofs.Codex.Layout
import ReflexPolicy.Proofs.Codex.VersionTold
import ReflexPolicy.Proofs.Request.Normal

/-!
# Reading a codex back

A canonical codex is read back from its document, whatever the layout.  Each section is read back
from what is written under its name; none of the checks on the way stops a canonical value, be it
at the end of its range or equal to the next one.
-/

namespace ReflexPolicy.Codex

open Reading

variable (l : Layout) {doc : Entries Scalar Value}

theorem sets_float (place : Text) {x : Binary64} (unit : x.isUnit = true) :
  (l.float place x).Sets x
  := Value.sets_iff.mpr ⟨unit, _, rfl, l.reads place x⟩

/-! ### Rules by tier and by mode -/

theorem readTier_tier {es : Entries Scalar Value} {tier : Tier} {p : TierPolicy}
    (written : Value.field es tier.name = l.tier (tier, p))
    (units : p.minConfidence.isUnit = true ∧ p.citationFloor.isUnit = true) :
  (readTier es tier).Gives [(tier, p)]
  := by
  refine readTier_gives.mpr ⟨p, _, written, ?_, rfl⟩
  constructor <;>
    simp only [Value.field, Value.fieldD, List.map_cons, List.map_nil, Value.field?_cons,
      String.reduceEq, if_true, if_false, Option.getD_some, Value.truthy, Scalar.truthy]
  · exact sets_float l _ units.1
  · exact sets_float l _ units.2

theorem readTiers_tiers {tiers : Entries Tier TierPolicy}
    (written : Value.field doc "tiers" = .map (tiers.map fun e => (.text e.1.name, l.tier e)))
    (names : Entries.keys tiers = Tier.all)
    (units : ∀ e ∈ tiers, e.2.minConfidence.isUnit = true ∧ e.2.citationFloor.isUnit = true)
    (floors : nonDecreasing (tiers.map fun e => e.2.minConfidence) = true) :
  (readTiers doc).Gives tiers
  := by
  obtain ⟨low, _, rfl, behindLow⟩ := Entries.eq_cons_of_keys names
  obtain ⟨medium, _, rfl, behindMedium⟩ := Entries.eq_cons_of_keys behindLow
  obtain ⟨high, _, rfl, behindHigh⟩ := Entries.eq_cons_of_keys behindMedium
  obtain rfl := List.map_eq_nil_iff.mp behindHigh
  simp only [List.forall_mem_cons] at units
  obtain ⟨ofLow, ofMedium, ofHigh, -⟩ := units
  simp only [readTiers, gives_bind, gives_pure, gives_each, gives_require, readSection_gives]
  refine ⟨_, written, [[(.low, low)], [(.medium, medium)], [(.high, high)]], ?each, [(), (), ()],
    ?known, (), ?ordered, rfl⟩
  case each =>
    simp only [Tier.all, List.forall₂_cons, List.forall₂_nil_left_iff, and_true]
    refine ⟨readTier_tier l ?_ ofLow, readTier_tier l ?_ ofMedium, readTier_tier l ?_ ofHigh⟩ <;>
      simp [Value.field, Value.field?_cons, Tier.name]
  case known =>
    simp only [List.map_cons, List.map_nil, Entries.keys, List.forall₂_cons,
      List.forall₂_nil_left_iff, and_true]
    decide
  case ordered =>
    rw [Bool.or_eq_true]
    exact .inr floors

theorem readBoost_float (place : Text) (mode : Mode) {x : Binary64}
    (nonneg : Binary64.le 0 x = true) :
  (readBoost mode (l.float place x)).Gives x
  := by
  have given := l.reads place x
  rw [readBoost, Layout.float]
  simp only [Value.number?, Number.not_lt_zero_of_toBinary64? given nonneg, Bool.false_eq_true,
    if_false, given, gives_reading_pure]

theorem readMode_mode {es : Entries Scalar Value} {mode : Mode} {p : ModePolicy}
    (written : Value.field es mode.name = l.mode (mode, p))
    (nonneg : Binary64.le 0 p.confidenceBoost = true) :
  (readMode es mode).Gives [(mode, p)]
  := by
  refine readMode_gives.mpr ⟨p, _, written, ?_, rfl⟩
  constructor <;>
    simp only [Value.fieldD, List.map_cons, List.map_nil, Value.field?_cons, String.reduceEq,
      if_true, if_false, Option.getD_some]
  · exact readBoost_float l _ _ nonneg
  · exact readText_gives.mpr ⟨rfl, rfl⟩

theorem readModes_modes {modes : Entries Mode ModePolicy}
    (written : Value.field doc "modes" = .map (modes.map fun e => (.text e.1.name, l.mode e)))
    (names : Entries.keys modes = Mode.all)
    (boosts : ∀ e ∈ modes, Binary64.le 0 e.2.confidenceBoost = true)
    (unboosted : ∀ p, Entries.get? modes .direct = some p →
      p.confidenceBoost.extended? = some (.units 0)) :
  (readModes doc).Gives modes
  := by
  obtain ⟨direct, _, rfl, behindDirect⟩ := Entries.eq_cons_of_keys names
  obtain ⟨careful, _, rfl, behindCareful⟩ := Entries.eq_cons_of_keys behindDirect
  obtain ⟨recap, _, rfl, behindRecap⟩ := Entries.eq_cons_of_keys behindCareful
  obtain rfl := List.map_eq_nil_iff.mp behindRecap
  simp only [List.forall_mem_cons] at boosts
  obtain ⟨ofDirect, ofCareful, ofRecap, -⟩ := boosts
  simp only [readModes, gives_bind, gives_pure, gives_each, gives_require, readSection_gives]
  refine ⟨_, written, [[(.direct, direct)], [(.careful, careful)], [(.recap, recap)]], ?each, (),
    isZero_iff.mpr (unboosted direct rfl), rfl⟩
  case each =>
    simp only [Mode.all, List.forall₂_cons, List.forall₂_nil_left_iff, and_true]
    refine ⟨readMode_mode l ?_ ofDirect, readMode_mode l ?_ ofCareful,
      readMode_mode l ?_ ofRecap⟩ <;>
      simp [Value.field, Value.field?_cons, Mode.name]

/-! ### Reflexes -/

theorem readBlocks_blocks {r : Reflex} (wellFormed : r.WellFormed)
    (distinct : r.blockIfOver.IsDistinct) :
  (readBlocks r.id r.triggerAt
    (if r.blockIfOver.isEmpty then .null else .map (l.blocks r))).Gives r.blockIfOver
  := by
  have each : (Reading.each (readBlock r.id r.triggerAt) (l.blocks r)).Gives
      (r.blockIfOver.map fun e => [e]) := by
    apply each_singletons
    intro e mem
    obtain ⟨unit, above⟩ := wellFormed.blocks e mem
    have notBelow : e.2.lt r.triggerAt = false :=
      (Binary64.lt_eq_false_iff (Binary64.isNan_of_le_right above)
        (Binary64.isNan_of_le_left above)).mpr above
    simp only [readBlock, gives_bind, readWord_gives]
    refine ⟨some e.1, ⟨e.1, parse_tier_name e.1, rfl⟩, ?_⟩
    simp only [gives_bind, gives_pure, gives_require]
    exact ⟨e.2, readUnit_gives_iff_sets.mpr (sets_float l _ unit), (), by rw [notBelow]; rfl, rfl⟩
  have together : Entries.ofList (r.blockIfOver.map fun e => [e]).flatten = r.blockIfOver := by
    rw [flatten_singletons, Entries.ofList_of_isDistinct distinct]
  cases empty : r.blockIfOver.isEmpty with
  | true =>
    rw [List.isEmpty_iff.mp empty, if_pos rfl]
    simp only [readBlocks, Value.truthy, Scalar.truthy, Bool.not_false, if_true, gives_bind,
      gives_pure, gives_reading_pure, exists_eq_left']
    exact ⟨[], gives_pure.mpr rfl, rfl⟩
  | false =>
    have truthy : (Value.map (l.blocks r)).truthy = true := by
      rw [Value.truthy, Layout.blocks, List.isEmpty_map, empty]
      rfl
    simp only [readBlocks, Bool.false_eq_true, if_false, truthy, Bool.not_true, gives_bind,
      gives_pure, gives_reading_pure, exists_eq_left']
    exact ⟨_, each, together⟩

theorem readSuppression_suppress (id : Scalar) (below : Option Tier) :
  (readSuppression id ((below.map fun t => Value.text t.name).getD .null)).Gives below
  := by
  cases below with
  | none => exact gives_reading_pure.mpr rfl
  | some t => exact readWord_gives.mpr ⟨t, parse_tier_name t, rfl⟩

/-- The fields of a reflex as it is written. -/
structure Describes (raw : Entries Scalar Value) (r : Reflex) : Prop where
  label : Value.field? raw "label" = some (.text r.label)
  severity : Value.field? raw "severity" = some (.int r.severity)
  trigger : Value.field raw "trigger_at"
    = l.float (Problem.reflexPlace r.id ++ ".trigger_at") r.triggerAt
  blocks : Value.field raw "block_if_over"
    = if r.blockIfOver.isEmpty then .null else .map (l.blocks r)
  suppress : Value.field raw "suppress_below"
    = (r.suppressBelow.map fun t => Value.text t.name).getD .null

theorem describes_reflex (r : Reflex) :
  ∃ raw, l.reflex r = .map raw ∧ Describes l raw r
  := by
  refine ⟨_, rfl, ?_⟩
  -- Which fields there are depends on what the reflex has.
  cases empty : r.blockIfOver.isEmpty <;> cases below : r.suppressBelow <;> constructor <;>
    simp [Value.field, Value.field?_cons, Value.field?_nil, empty, below]

theorem Describes.isOf {raw : Entries Scalar Value} {r : Reflex} (describes : Describes l raw r)
    (wellFormed : r.WellFormed) (distinct : r.blockIfOver.IsDistinct) :
  r.IsOf r.id raw
  where
    named := rfl
    label := by
      rw [Value.fieldD, describes.label]
      exact readText_gives.mpr ⟨rfl, rfl⟩
    severity := by
      rw [Value.fieldD, describes.severity]
      rfl
    inside := wellFormed.severity
    trigger := by
      rw [describes.trigger]
      apply sets_float l _ wellFormed.trigger
    blocks := by
      rw [describes.blocks]
      apply readBlocks_blocks l wellFormed distinct
    suppress := by
      rw [describes.suppress]
      apply readSuppression_suppress

theorem readReflex_reflex {r : Reflex} {id : Text} (named : r.id = .text id)
    (wellFormed : r.WellFormed) (distinct : r.blockIfOver.IsDistinct) :
  (readReflex (r.id, l.reflex r)).Gives [(r.id, r)]
  := by
  obtain ⟨raw, written, describes⟩ := describes_reflex l r
  refine readReflex_gives.mpr ⟨?_, r, raw, written, describes.isOf l wellFormed distinct, rfl⟩
  rw [named]
  rfl

theorem readReflexes_reflexes {reflexes : Entries Scalar Reflex}
    (written : Value.field doc "reflexes" = .map (reflexes.map fun e => (e.1, l.reflex e.2)))
    (ids : ∀ e ∈ reflexes, (∃ id : Text, e.1 = .text id) ∧ e.2.id = e.1)
    (wellFormed : ∀ e ∈ reflexes, e.2.WellFormed)
    (distinct : ∀ e ∈ reflexes, e.2.blockIfOver.IsDistinct) :
  (readReflexes doc).Gives reflexes
  := by
  simp only [readReflexes, gives_bind, gives_pure, readSection_gives]
  refine ⟨_, written, _, each_singletons ?_, flatten_singletons _⟩
  rintro ⟨_, r⟩ mem
  obtain ⟨⟨id, named⟩, same⟩ := ids _ mem
  simp only at named same
  subst same
  exact readReflex_reflex l named (wellFormed _ mem) (distinct _ mem)

/-! ### Profiles -/

/-- Both forms of a profile have its list. -/
theorem orderOf_profile (p : Profile) :
  orderOf (l.profile p) = .list (p.order.map Value.text)
  := by
  rw [Layout.profile]
  split
  · rfl
  · simp [Value.ofFields, orderOf, Value.field, Value.field?_cons]

theorem readProfiles_profiles {profiles : Entries Scalar Profile} {ids : List Scalar}
    (written : Value.field doc "profiles" = .map (profiles.map fun e => (e.1, l.profile e.2)))
    (names : ∀ e ∈ profiles, e.2.name = e.1)
    (orders : ∀ e ∈ profiles, e.2.order.Nodup
      ∧ ∀ id ∈ e.2.order, ids.any (·.same (.text id)) = true)
    (default : ∃ p, Entries.get? profiles (.text defaultProfile) = some p ∧ p.order ≠ []) :
  (readProfiles doc ids).Gives profiles
  := by
  simp only [readProfiles, gives_bind, gives_pure, gives_require, readSection_gives]
  refine ⟨_, written, _, each_singletons ?each, (), ?something, flatten_singletons _⟩
  case each =>
    rintro ⟨_, p⟩ mem
    have same := names _ mem
    simp only at same
    subst same
    obtain ⟨nodup, defined⟩ := orders _ mem
    simp only [readProfile, orderOf_profile, gives_bind, gives_pure, readOrder_gives]
    exact ⟨_, ⟨rfl, nodup, fun id listed => ⟨List.not_mem_nil, defined id listed⟩⟩, rfl⟩
  case something =>
    obtain ⟨p, found, something⟩ := default
    have listed := Scalar.get?_map (fun _ => l.profile) profiles defaultProfile
    rw [found] at listed
    rw [listsSomething, Value.field, Value.field?, listed, Option.map_some, Option.getD_some,
      orderOf_profile]
    cases order : p.order with
    | nil => exact absurd order something
    | cons id ids => rfl

/-! ### Settings -/

theorem readContextDecay_contextDecay {d : ContextDecay}
    (written : Value.field doc "context_decay" = Layout.contextDecay d) :
  (readContextDecay doc).Gives d
  := by
  simp only [readContextDecay, gives_bind, gives_pure, readSection_gives, readLimit_gives,
    readWord_gives]
  refine ⟨_, written, d.maxTurns, .inl ?turns, d.maxTokens, .inl ?tokens, some d.onExpire,
    ⟨d.onExpire, ?mode, rfl⟩, rfl⟩
  case turns => simp [Value.field, Value.field?_cons]
  case tokens => simp [Value.field, Value.field?_cons]
  case mode => simp [Value.fieldD, Value.field?_cons, parse_mode_name]

theorem parse_omission (o : OmissionOverride) :
  OmissionOverride.parse (Layout.omission o) = .ok o
  := by cases o <;> rfl

theorem readHandshakeDefaults_handshakeDefaults {d : HandshakeDefaults} {names : List Scalar}
    (written : Value.field doc "handshake_defaults" = Layout.handshakeDefaults d)
    (defined : names.any (·.same (.text d.profile)) = true) :
  (readHandshakeDefaults doc names).Gives d
  := by
  simp only [readHandshakeDefaults, gives_bind, readSettings_gives]
  refine ⟨_, .inr ⟨_, written ▸ rfl, written, rfl⟩, ?_⟩
  simp only [gives_bind, gives_pure, readWord_gives, readText_gives, gives_require, Value.fieldD,
    List.map_cons, List.map_nil, Value.field?_cons, Value.field?_nil, String.reduceEq, if_true,
    if_false, Option.getD_some]
  exact ⟨_, ⟨_, parse_mode_name _, rfl⟩, _, ⟨_, parse_tier_name _, rfl⟩, _,
    ⟨_, parse_citation_name _, rfl⟩, _, ⟨_, parse_omission _, rfl⟩, _, ⟨rfl, rfl⟩, (),
    Bool.or_eq_true_iff.mpr (.inr defined), rfl⟩

theorem readFailure_failureMessage {es : Entries Scalar Value} {name : String}
    {found : Option FailureMessage}
    (written : Value.field? es name = found.map Layout.failureMessage) :
  (readFailure es name).Gives (found.map fun m => (Text.ofString name, m)).toList
  := by
  rw [readFailure, Value.field, written]
  cases found with
  | none => exact gives_reading_pure.mpr rfl
  | some m =>
    simp only [Option.map_some, Option.getD_some, Layout.failureMessage, Value.ofFields, gives_bind,
      gives_pure, readText_gives, Value.fieldD, List.map_cons, List.map_nil, Value.field?_cons,
      Value.field?_nil, String.reduceEq, if_true, if_false]
    exact ⟨_, ⟨rfl, rfl⟩, _, ⟨rfl, rfl⟩, rfl⟩

/-- The messages of failures are read back one by one, from a mapping that has the thresholds too.
-/
theorem readFailures_messages (messages : Entries Text FailureMessage) (hedge refuse : Value) :
  (Reading.each (readFailure ((.text "hedge_threshold", hedge) :: (.text "refuse_threshold", refuse)
      :: messages.map fun e => (.text e.1, Layout.failureMessage e.2))) failureNames).Gives
    (failureNames.map fun name => ((Entries.get? messages (.ofString name)).map
      fun m => (Text.ofString name, m)).toList)
  := by
  rw [gives_each, List.forall₂_map_right_iff, List.forall₂_same]
  intro name mem
  apply readFailure_failureMessage
  -- No failure is named like a threshold.
  have apart : "hedge_threshold" ≠ name ∧ "refuse_threshold" ≠ name := by
    revert name
    decide
  rw [Value.field?_cons, if_neg apart.1, Value.field?_cons, if_neg apart.2, Value.field?,
    Scalar.get?_texts]

theorem readFailureSemantics_failureSemantics {f : FailureSemantics}
    (written : Value.field doc "failure_semantics" = l.failureSemantics f)
    (nonneg : Binary64.le 0 f.refuseThreshold = true)
    (ordered : f.refuseThreshold.le f.hedgeThreshold = true)
    (le_one : f.hedgeThreshold.le 1 = true)
    (names : (Entries.keys f.messages).Sublist (failureNames.map Text.ofString)) :
  (readFailureSemantics doc).Gives f
  := by
  have hedge : f.hedgeThreshold.isUnit = true :=
    Binary64.isUnit_iff.mpr ⟨Binary64.le_trans nonneg ordered, le_one⟩
  have refuse : f.refuseThreshold.isUnit = true :=
    Binary64.isUnit_iff.mpr ⟨nonneg, Binary64.le_trans ordered le_one⟩
  have notBelow : f.hedgeThreshold.lt f.refuseThreshold = false :=
    (Binary64.lt_eq_false_iff (Binary64.isNan_of_isUnit hedge)
      (Binary64.isNan_of_isUnit refuse)).mpr ordered
  have all := Entries.flatMap_of_sublist names (by decide)
  rw [List.flatMap_map, List.flatMap_def] at all
  simp only [readFailureSemantics, gives_bind, readSettings_gives]
  refine ⟨_, .inr ⟨_, written ▸ rfl, written, rfl⟩, ?_⟩
  simp only [gives_bind, gives_pure, gives_require, Value.fieldD, List.cons_append, List.nil_append,
    Value.field?_cons, String.reduceEq, if_true, if_false, Option.getD_some]
  refine ⟨_, readUnit_gives_iff_sets.mpr (sets_float l _ hedge), _,
    readUnit_gives_iff_sets.mpr (sets_float l _ refuse), (), by rw [notBelow]; rfl, _,
    readFailures_messages f.messages _ _, ?_⟩
  rw [all]

/-- The settings of telemetry are read back with each hidden field once. -/
theorem readTelemetry_telemetry {t : TelemetrySettings}
    (written : Value.field doc "telemetry" = Layout.telemetry t) :
  (readTelemetry doc).Gives { t with redactFields := t.redactFields.eraseDups }
  := by
  simp only [readTelemetry, gives_bind, readSettings_gives]
  refine ⟨_, .inr ⟨_, written ▸ rfl, written, rfl⟩, ?_⟩
  simp only [gives_bind, gives_pure, readNames_gives, Value.field, Value.fieldD, List.map_cons,
    List.map_nil, Value.field?_cons, Value.field?_nil, String.reduceEq, if_true, if_false,
    Option.getD_some, Option.getD_none]
  refine ⟨t.redactFields, ?names, ?enabled⟩
  case names => cases t.redactFields <;> simp [Value.truthy]
  case enabled => simp [Value.truthy, Scalar.truthy]

/-! ### Whole documents -/

variable {c : Codex}

theorem IsCanonical.floorsOrdered (canonical : c.IsCanonical) :
  nonDecreasing (c.tiers.map fun e => e.2.minConfidence) = true
  := by
  have floors := canonical.floors
  obtain ⟨low, _, same, behindLow⟩ := Entries.eq_cons_of_keys canonical.tierNames
  obtain ⟨medium, _, rfl, behindMedium⟩ := Entries.eq_cons_of_keys behindLow
  obtain ⟨high, _, rfl, behindHigh⟩ := Entries.eq_cons_of_keys behindMedium
  obtain rfl := List.map_eq_nil_iff.mp behindHigh
  rw [same] at floors ⊢
  have lowMedium := floors .low .medium low medium (by decide) rfl rfl
  have mediumHigh := floors .medium .high medium high (by decide) rfl rfl
  simp only [List.map_cons, List.map_nil, nonDecreasing, lowMedium, mediumHigh, Bool.and_self]

theorem IsCanonical.floorUnits (canonical : c.IsCanonical) :
  ∀ e ∈ c.tiers, e.2.minConfidence.isUnit = true ∧ e.2.citationFloor.isUnit = true
  := by
  rintro ⟨t, p⟩ mem
  have nodup : (Entries.keys c.tiers).Nodup := by
    rw [canonical.tierNames]
    decide
  obtain ⟨p', found, units⟩ := canonical.tiers t
  rw [(Entries.get?_eq_some_iff nodup).mpr mem] at found
  cases found
  exact units

theorem gives_document (canonical : c.IsCanonical) :
  (Codex.read (l.document c)).Gives c.withoutRepeats
  := by
  have written {name : String} {v : Value} (found : Value.field? (l.document c) name = some v) :
      Value.field (l.document c) name = v := by rw [Value.field, found, Option.getD_some]
  simp only [Codex.read, gives_bind, gives_pure]
  refine ⟨c.version, ?version, c.tiers, ?tiers, c.modes, ?modes, c.reflexes, ?reflexes, c.profiles,
    ?profiles, c.contextDecay, ?decay, c.handshakeDefaults, ?defaults, c.failureSemantics,
    ?failures, c.withoutRepeats.telemetry, ?telemetry, ?whole⟩
  case version =>
    exact readVersion_gives.mpr ⟨rfl, rfl, Text.isVersion_of_isSemver canonical.version⟩
  case tiers =>
    exact readTiers_tiers l (written rfl) canonical.tierNames canonical.floorUnits
      canonical.floorsOrdered
  case modes =>
    exact readModes_modes l (written rfl) canonical.modeNames canonical.boosts canonical.direct
  case reflexes =>
    exact readReflexes_reflexes l (written rfl) canonical.ids canonical.reflexes
      canonical.blockTiers
  case profiles =>
    apply readProfiles_profiles l (written rfl) (fun e mem => (canonical.profileNames e mem).2) _
      canonical.default
    intro e mem
    obtain ⟨nodup, defined⟩ := canonical.orders e mem
    refine ⟨nodup, fun id listed => ?_⟩
    rw [← defined id listed, Entries.has_eq_any]
    rfl
  case decay => exact readContextDecay_contextDecay (written rfl)
  case defaults =>
    apply readHandshakeDefaults_handshakeDefaults (written rfl)
    have defined := canonical.handshake
    rw [Codex.hasProfile, Codex.profile?, ← Entries.has, Entries.has_eq_any] at defined
    exact defined
  case failures =>
    obtain ⟨nonneg, ordered, le_one⟩ := canonical.failures
    exact readFailureSemantics_failureSemantics l (written rfl) nonneg ordered le_one
      canonical.messageNames
  case telemetry => exact readTelemetry_telemetry (written rfl)
  case whole =>
    have date : dateOf (l.document c) = .text c.date := rfl
    have description : descriptionOf (l.document c) = .text c.description := rfl
    have overrides : allowsOmissionOverrides (l.document c) = c.omissionOverridesAllowed := by
      rw [allowsOmissionOverrides, written rfl]
      simp [Value.ofFields, Value.field, Value.field?_cons, Value.truthy, Scalar.truthy]
    rw [date, description, overrides]
    rfl

/-- A canonical codex is read back from its document, whatever the layout: every field of it is as
it was, with reflexes, blocks and profiles in their order, and the same fields are hidden. -/
theorem ofValue_document (canonical : c.IsCanonical) :
  ofValue (.map (l.document c)) = .ok c.withoutRepeats
    ∧ ∀ name, name ∈ c.withoutRepeats.telemetry.redactFields ↔ name ∈ c.telemetry.redactFields
  := by
  constructor
  · exact ofValue_map_eq_ok_iff.mpr ⟨gives_document l canonical, rfl, rfl⟩
  · intro name
    apply List.mem_eraseDups

/-- A layout that writes one as a whole number, and the profile of one name as a list. -/
def mixedLayout : Layout where
  number _ x := if x = 1 then .whole 1 else .float x
  reads := by
    intro _ x
    split
    · rename_i same
      rw [same]
      decide +kernel
    · rfl
  isBare name := name == .text "strict"

/-- A codex at the ends of its ranges: equal floors, a block at the trigger, a reflex without a
name. -/
def edgeCodex : Codex where
  version := "1.0.20"
  date := "2026-10-01"
  description := ""
  reflexes := [
    (.text "claim",
      { id := .text "claim", label := "Claim", severity := 10, triggerAt := 0.6,
        blockIfOver := [(.high, 0.6), (.low, 1)], suppressBelow := none }),
    (.text "",
      { id := .text "", label := "Tone", severity := 1, triggerAt := 0, blockIfOver := [],
        suppressBelow := some .medium })]
  tiers := [
    (.low,
      { minConfidence := 0, citationRequired := false, citationFloor := 1, omissionScan := false }),
    (.medium,
      { minConfidence := 0.5, citationRequired := false, citationFloor := 0,
        omissionScan := true }),
    (.high,
      { minConfidence := 0.5, citationRequired := true, citationFloor := 0.7,
        omissionScan := true })]
  modes := [
    (.direct, { confidenceBoost := 0, description := "" }),
    (.careful, { confidenceBoost := 1, description := "Qualify claims." }),
    (.recap, { confidenceBoost := 0.05, description := "" })]
  profiles := [
    (.text "default", { name := .text "default", order := ["", "claim"] }),
    (.text "strict", { name := .text "strict", order := [] })]
  contextDecay := { maxTurns := 0, maxTokens := 8000, onExpire := .direct }
  omissionOverridesAllowed := true
  handshakeDefaults :=
    { mode := .recap, tier := .high, citation := .off, omission := some false, profile := "strict" }
  failureSemantics :=
    { hedgeThreshold := 0.4, refuseThreshold := 0.4,
      messages := [("ask_clarify", { text := "What do you mean?", action := "" })] }
  telemetry := { enabled := false, redactFields := ["text", "input"] }

set_option maxRecDepth 4000 in
theorem isCanonical_edgeCodex :
  edgeCodex.IsCanonical
  where
    tiers := by
      intro t
      cases t <;> exact ⟨_, rfl, by decide +kernel, by decide +kernel⟩
    floors := by
      intro s t p q le hp hq
      revert le
      cases s <;> cases t <;> cases hp <;> cases hq <;> decide +kernel
    modes := by
      intro m
      cases m <;> exact ⟨_, rfl⟩
    direct := by
      rintro p ⟨⟩
      decide +kernel
    reflexes := by
      rw [edgeCodex, List.forall_mem_cons, List.forall_mem_singleton]
      exact ⟨⟨by decide +kernel, by decide, by decide +kernel⟩,
        ⟨by decide +kernel, by decide, by decide +kernel⟩⟩
    orders := by decide +kernel
    default := ⟨_, rfl, by decide⟩
    failures := by decide +kernel
    handshake := by decide +kernel
    version := ⟨['1'], ['0'], ['2', '0'], by simp [IsRun, Text.isAsciiDigit],
      by simp [IsRun, Text.isAsciiDigit], by simp [IsRun, Text.isAsciiDigit], rfl⟩
    tierNames := rfl
    modeNames := rfl
    boosts := by decide +kernel
    ids := by simp [edgeCodex]
    blockTiers := by simp [edgeCodex, Entries.IsDistinct, Entries.keys]
    profileNames := by simp [edgeCodex]
    messageNames := by decide +kernel

theorem ofValue_document_edgeCodex :
  edgeCodex.IsCanonical ∧ ofValue (.map (mixedLayout.document edgeCodex)) = .ok edgeCodex
  := by
  obtain ⟨loaded, -⟩ := ofValue_document mixedLayout isCanonical_edgeCodex
  have once : edgeCodex.withoutRepeats = edgeCodex := rfl
  rw [once] at loaded
  exact ⟨isCanonical_edgeCodex, loaded⟩

end ReflexPolicy.Codex
