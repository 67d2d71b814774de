import ReflexPolicy.Proofs.Codex.Faults

/-!
# Required numbers

The floors of the tiers, the triggers of the reflexes and the limits of context decay have no
default.  A codex that is loaded has each of them from its document, where it is written as a
number of the required kind, and a document that does not write one of them is refused.  There is
one gap: a section of context decay that is there and empty passes for one whose limits are zero.
-/

namespace ReflexPolicy

open Reading

namespace Codex

/-! ### What a document writes -/

/-- The document writes the floor of every tier. -/
def WritesFloors (doc : Entries Scalar Value) (floor : Tier → Binary64) : Prop :=
  ∃ es, Value.field doc "tiers" = .map es ∧ ∀ t : Tier, ∃ raw, Value.field es t.name = .map raw
    ∧ (Value.field raw "min_confidence").Sets (floor t)

/-- The document writes the trigger of every reflex. -/
def WritesTriggers (doc : Entries Scalar Value) (triggers : List (Scalar × Binary64)) : Prop :=
  ∃ es, Value.field doc "reflexes" = .map es
    ∧ List.Forall₂ (fun e trigger => trigger.1 = e.1
        ∧ ∃ raw, e.2 = .map raw ∧ (Value.field raw "trigger_at").Sets trigger.2) es triggers

/-- The document writes both limits of context decay. -/
def WritesLimits (doc : Entries Scalar Value) (turns tokens : Nat) : Prop :=
  ∃ es, Value.field doc "context_decay" = .map es
    ∧ Value.field es "max_turns_without_recap" = .int turns
    ∧ Value.field es "max_tokens_since_recap" = .int tokens

/-- The section of context decay is there and empty. -/
def HasEmptyDecay (doc : Entries Scalar Value) : Prop :=
  Value.field doc "context_decay" = .map []

/-- The codex has the required numbers of the document.  Only an empty section of context decay
writes none, and then both limits are zero. -/
structure Draws (c : Codex) (doc : Entries Scalar Value) : Prop where
  floors : ∃ floor, WritesFloors doc floor
    ∧ ∀ t, ∃ p, Entries.get? c.tiers t = some p ∧ p.minConfidence = floor t
  triggers : WritesTriggers doc (c.reflexes.map fun e => (e.1, e.2.triggerAt))
  limits : WritesLimits doc c.contextDecay.maxTurns c.contextDecay.maxTokens
    ∨ HasEmptyDecay doc ∧ c.contextDecay.maxTurns = 0 ∧ c.contextDecay.maxTokens = 0

/-- Some required number is not written in the document, where an empty section of context decay is
not asked for any. -/
def Lacks (doc : Entries Scalar Value) : Prop :=
  (¬∃ floor, WritesFloors doc floor) ∨ (¬∃ triggers, WritesTriggers doc triggers)
    ∨ (¬∃ turns tokens, WritesLimits doc turns tokens) ∧ ¬HasEmptyDecay doc

theorem Draws.not_lacks {c : Codex} {doc : Entries Scalar Value} (draws : c.Draws doc) :
  ¬Lacks doc
  := by
  rintro (floors | triggers | ⟨limits, asked⟩)
  · obtain ⟨floor, writes, -⟩ := draws.floors
    exact floors ⟨floor, writes⟩
  · exact triggers ⟨_, draws.triggers⟩
  · obtain writes | ⟨empty, -, -⟩ := draws.limits
    · exact limits ⟨_, _, writes⟩
    · exact asked empty

/-! ### What the sections draw on -/

/-- The floor of each tier is written under the name of the tier. -/
theorem floors_of_readTiers {doc : Entries Scalar Value} {tiers : Entries Tier TierPolicy}
    (given : (readTiers doc).Gives tiers) :
  ∃ floor, WritesFloors doc floor
    ∧ ∀ t, ∃ p, Entries.get? tiers t = some p ∧ p.minConfidence = floor t
  := by
  obtain ⟨es, low, medium, high, section_, rfl, sources, -⟩ := readTiers_gives given
  have each (t : Tier) :
      ∃ p, Entries.get? [(.low, low), (.medium, medium), (.high, high)] t = some p
        ∧ ∃ raw, Value.field es t.name = .map raw ∧ p.IsOf raw := by
    cases t with
    | low => exact ⟨low, rfl, sources (.low, low) (by simp)⟩
    | medium => exact ⟨medium, rfl, sources (.medium, medium) (by simp)⟩
    | high => exact ⟨high, rfl, sources (.high, high) (by simp)⟩
  choose p found raw source isOf using each
  exact ⟨fun t => (p t).minConfidence,
    ⟨es, section_, fun t => ⟨raw t, source t, (isOf t).floor⟩⟩, fun t => ⟨p t, found t, rfl⟩⟩

/-- The trigger of each reflex is written under its id. -/
theorem triggers_of_readReflexes {doc : Entries Scalar Value} {reflexes : Entries Scalar Reflex}
    (given : (readReflexes doc).Gives reflexes) :
  WritesTriggers doc (reflexes.map fun e => (e.1, e.2.triggerAt))
  := by
  obtain ⟨es, section_, sources⟩ := readReflexes_gives given
  use es, section_
  rw [List.forall₂_map_right_iff]
  apply sources.imp
  rintro e ⟨_, r⟩ ⟨rfl, raw, found, isOf⟩
  exact ⟨rfl, raw, found, isOf.trigger⟩

/-- Both limits are written in the section of context decay, unless it is empty. -/
theorem limits_of_readContextDecay {doc : Entries Scalar Value} {decay : ContextDecay}
    (given : (readContextDecay doc).Gives decay) :
  WritesLimits doc decay.maxTurns decay.maxTokens
    ∨ HasEmptyDecay doc ∧ decay.maxTurns = 0 ∧ decay.maxTokens = 0
  := by
  obtain ⟨es, section_, turns, tokens⟩ := readContextDecay_gives given
  by_cases empty : es = []
  · subst empty
    -- Nothing stands under a name in an empty section.
    obtain written | ⟨-, noTurns⟩ := turns
    · cases written
    · obtain written | ⟨-, noTokens⟩ := tokens
      · cases written
      · exact .inr ⟨section_, noTurns, noTokens⟩
  · have written {name : String} {limit : Nat}
        (given : Value.field es name = .int limit ∨ es = [] ∧ limit = 0) :
        Value.field es name = .int limit := given.resolve_right fun nothing => empty nothing.1
    exact .inl ⟨es, section_, written turns, written tokens⟩

theorem draws_of_gives {doc : Entries Scalar Value} {c : Codex} (given : (Codex.read doc).Gives c) :
  c.Draws doc
  := by
  simp only [Codex.read, gives_bind, gives_pure] at given
  obtain ⟨version, -, tiers, givenTiers, modes, -, reflexes, givenReflexes, profiles, -, decay,
    givenDecay, defaults, -, failures, -, telemetry, -, rfl⟩ := given
  exact {
    floors := floors_of_readTiers givenTiers
    triggers := triggers_of_readReflexes givenReflexes
    limits := limits_of_readContextDecay givenDecay }

/-! ### Whole documents -/

/-- A codex that is loaded has its floors, its triggers and its limits from the document, each from
a number of the required kind that the document writes, and a document that lacks one of them is
refused: in the documented way, unless a whole number of it is too large or too long.  An empty
section of context decay is the one exception: it gives limits of zero. -/
theorem draws_or_refused (v : Value) :
  (∀ c, ofValue v = .ok c → ∃ doc, v = .map doc ∧ c.Draws doc)
    ∧ ((∀ doc, v = .map doc → Lacks doc) →
      ∃ f, ofValue v = .error f ∧ (f.IsDocumented ∨ v.Overtaxes f))
  := by
  have drawn (c : Codex) (loaded : ofValue v = .ok c) : ∃ doc, v = .map doc ∧ c.Draws doc := by
    obtain ⟨doc, same, given⟩ := gives_of_ofValue loaded
    exact ⟨doc, same, draws_of_gives given⟩
  refine ⟨drawn, ?refused⟩
  intro lacks
  obtain ⟨c, loaded⟩ | refused := loads_ofValue v
  · obtain ⟨doc, same, draws⟩ := drawn c loaded
    exact absurd (lacks doc same) draws.not_lacks
  · exact refused

/-- The small document with one limit of context decay. -/
def halfLimitedDocument : Value :=
  smallDocumentWith [("context_decay", .ofFields [("max_turns_without_recap", .int 20)])]

theorem lacks_halfLimited (doc : Entries Scalar Value) (same : halfLimitedDocument = .map doc) :
  Lacks doc
  := by
  cases same
  right; right
  constructor
  · rintro ⟨turns, tokens, es, section_, -, written⟩
    cases section_
    cases written
  · intro empty
    cases empty

theorem draws_or_refused_halfLimited :
  (∃ c doc, ofValue smallDocument = .ok c ∧ smallDocument = .map doc ∧ c.Draws doc)
    ∧ ∃ f, ofValue halfLimitedDocument = .error f
      ∧ (f.IsDocumented ∨ halfLimitedDocument.Overtaxes f)
  := by
  obtain ⟨c, loaded⟩ := exists_of_isOk isOk_smallDocument
  obtain ⟨doc, same, draws⟩ := (draws_or_refused smallDocument).1 c loaded
  exact ⟨⟨c, doc, loaded, same, draws⟩, (draws_or_refused _).2 lacks_halfLimited⟩

/-- The small document with an empty section of context decay. -/
def decaylessDocument : Value := smallDocumentWith [("context_decay", .ofFields [])]

/-- The limits of the codex are zero. -/
def limitsAreZero (c : Codex) : Bool :=
  c.contextDecay.maxTurns == 0 && c.contextDecay.maxTokens == 0

set_option maxRecDepth 4000 in
/-- Two limits are made up for a document that has an empty section of context decay, and writes
neither. -/
theorem limits_of_nothing :
  ∃ c doc, ofValue decaylessDocument = .ok c ∧ decaylessDocument = .map doc
    ∧ c.contextDecay.maxTurns = 0 ∧ c.contextDecay.maxTokens = 0
    ∧ ¬∃ turns tokens, WritesLimits doc turns tokens
  := by
  have computed : passes limitsAreZero (ofValue decaylessDocument) = true := by decide +kernel
  obtain ⟨c, loaded, zero⟩ := exists_of_passes computed
  rw [limitsAreZero, Bool.and_eq_true, beq_iff_eq, beq_iff_eq] at zero
  refine ⟨c, _, loaded, rfl, zero.1, zero.2, ?_⟩
  rintro ⟨turns, tokens, es, section_, written, -⟩
  cases section_
  cases written

end Codex

end ReflexPolicy
