import ReflexPolicy.Proofs.Codex.Sections
import ReflexPolicy.Proofs.Success

/-!
# Loaded codices are well-formed

A codex is loaded only from a document that is read without problems.  No reading that stores a
default does so without noting a problem, so that everything a policy relies on holds of every
codex that is loaded: `wellFormed_of_gives` collects what the sections give.
-/

namespace ReflexPolicy.Codex

open Reading

/-- A document is loaded when it is read without problems, and its date and its description can be
written. -/
theorem ofValue_map_eq_ok_iff {doc : Entries Scalar Value} {c : Codex} :
  ofValue (.map doc) = .ok c
    ↔ (read doc).Gives c ∧ (dateOf doc).isWritable = true ∧ (descriptionOf doc).isWritable = true
  := by
  rw [ofValue, ofEntries, Gives]
  split
  · rename_i broken
    simp [broken]
  · rename_i broken
    simp [broken]
  · rename_i given
    rw [given, ← Bool.and_eq_true]
    split
    · rename_i writable
      simp [writable]
    · rename_i unwritable
      simp [unwritable]
  · rename_i problems something given
    rw [given]
    constructor
    · rintro ⟨⟩
    · rintro ⟨same, -⟩
      cases same
      exact absurd rfl something

/-- A value is loaded when it is a mapping that is read without problems. -/
theorem gives_of_ofValue {v : Value} {c : Codex} (loaded : ofValue v = .ok c) :
  ∃ doc, v = .map doc ∧ (read doc).Gives c
  := by
  cases v with
  | scalar s => simp [ofValue] at loaded
  | list items => simp [ofValue] at loaded
  | map doc => exact ⟨doc, rfl, (ofValue_map_eq_ok_iff.mp loaded).1⟩

/-! ### Rules by tier and by mode -/

theorem tiers_of_gives {doc : Entries Scalar Value} {tiers : Entries Tier TierPolicy}
    (h : (readTiers doc).Gives tiers) (t : Tier) :
  ∃ p, Entries.get? tiers t = some p ∧ p.minConfidence.isUnit = true
    ∧ p.citationFloor.isUnit = true
  := by
  have units := units_of_readTiers h
  obtain ⟨_, low, medium, high, -, rfl, -⟩ := readTiers_gives h
  cases t with
  | low => exact ⟨low, rfl, units (.low, low) (by simp)⟩
  | medium => exact ⟨medium, rfl, units (.medium, medium) (by simp)⟩
  | high => exact ⟨high, rfl, units (.high, high) (by simp)⟩

theorem floors_of_gives {doc : Entries Scalar Value} {tiers : Entries Tier TierPolicy}
    (h : (readTiers doc).Gives tiers) {s t : Tier} {p q : TierPolicy} (le : s.rank ≤ t.rank)
    (hp : Entries.get? tiers s = some p) (hq : Entries.get? tiers t = some q) :
  p.minConfidence.le q.minConfidence = true
  := by
  have units := units_of_readTiers h
  obtain ⟨_, low, medium, high, -, rfl, -, low_medium, medium_high⟩ := readTiers_gives h
  have same (t : Tier) (p : TierPolicy) (mem : (t, p) ∈
      [(Tier.low, low), (.medium, medium), (.high, high)]) :
      p.minConfidence.le p.minConfidence = true :=
    Binary64.le_refl (Binary64.isNan_of_isUnit (units (t, p) mem).1)
  cases s <;> cases t <;> cases hp <;> cases hq <;> simp only [Tier.rank] at le
  · apply same .low _ (by simp)
  · apply low_medium
  · apply Binary64.le_trans low_medium medium_high
  · omega
  · apply same .medium _ (by simp)
  · apply medium_high
  · omega
  · omega
  · apply same .high _ (by simp)

theorem modes_of_gives {doc : Entries Scalar Value} {modes : Entries Mode ModePolicy}
    (h : (readModes doc).Gives modes) (m : Mode) :
  ∃ p, Entries.get? modes m = some p ∧ p.confidenceBoost.lt 0 = false
  := by
  obtain ⟨direct, careful, recap, rfl, nonneg, -⟩ := readModes_gives h
  cases m with
  | direct => exact ⟨direct, rfl, nonneg (.direct, direct) (by simp)⟩
  | careful => exact ⟨careful, rfl, nonneg (.careful, careful) (by simp)⟩
  | recap => exact ⟨recap, rfl, nonneg (.recap, recap) (by simp)⟩

/-! ### A small codex -/

/-- The rules of a tier in a document. -/
def tierEntry (tier : Tier) (floor citation : Binary64) : String × Value :=
  (tier.name, .ofFields [("min_confidence", .float floor),
    ("citation_score_floor", .float citation)])

/-- A small document.  It spells one tier in two ways, has a profile in each of the two forms, and
leaves out what may be left out. -/
def smallDocument : Value :=
  .ofFields [
    ("codex_version", .text "1.0.0"),
    ("tiers", .ofFields [tierEntry .low 0.5 0.9, tierEntry .medium 0.5 0.9,
      tierEntry .high 0.75 0.7]),
    ("modes", .ofFields [("direct", .ofFields []), ("recap", .ofFields []),
      ("careful", .ofFields [("confidence_boost", .float 0.1)])]),
    ("reflexes", .ofFields [
      ("claim", .ofFields [("trigger_at", .float 0.6), ("severity", .int 9),
        ("block_if_over", .ofFields [("high", .float 0.9), (" HIGH", .float 0.85)])]),
      ("tone", .ofFields [("trigger_at", .int 0), ("suppress_below", .text "medium")])]),
    ("profiles", .ofFields [
      ("default", .list [.text "tone", .text "claim"]),
      ("strict", .ofFields [("prioritization_order", .list [.text "claim"])])]),
    ("context_decay", .ofFields [("max_turns_without_recap", .int 20),
      ("max_tokens_since_recap", .int 8000)])]

set_option maxRecDepth 4000 in
theorem isOk_smallDocument :
  (ofValue smallDocument).isOk = true
  := by decide +kernel

/-- The small document with other values under some of its names. -/
def smallDocumentWith (changes : List (String × Value)) : Value :=
  match smallDocument with
  | .map es => .map (changes.foldl (fun es change => Entries.put es (.text change.1) change.2) es)
  | other => other

/-! ### The whole document -/

/-- A document that is read without problems gives a well-formed codex that leaves out nothing of
its lists and makes up no limit. -/
theorem wellFormed_of_gives {doc : Entries Scalar Value} {c : Codex}
    (h : (Codex.read doc).Gives c) :
  c.WellFormed ∧ c.IsOf doc
  := by
  simp only [Codex.read, gives_bind, gives_pure] at h
  obtain ⟨version, -, tiers, givenTiers, modes, givenModes, reflexes, givenReflexes, profiles,
    givenProfiles, decay, givenDecay, defaults, givenDefaults, failures, givenFailures,
    telemetry, givenTelemetry, rfl⟩ := h
  obtain ⟨_, -, eachReflex⟩ := readReflexes_gives givenReflexes
  obtain ⟨es, section_, eachProfile, something⟩ := readProfiles_gives givenProfiles
  obtain ⟨p, default, lists⟩ := get?_profiles
    (eachProfile.imp fun _ _ given => ⟨given.1, given.2.1⟩) something
  constructor
  · exact {
      tiers := tiers_of_gives givenTiers
      floors := fun _ _ _ _ => floors_of_gives givenTiers
      modes := fun m => (modes_of_gives givenModes m).imp fun _ given => given.1
      direct := by
        obtain ⟨direct, careful, recap, rfl, -, unboosted⟩ := readModes_gives givenModes
        rintro p hp
        cases hp
        apply unboosted
      reflexes := by
        intro e mem
        obtain ⟨_, -, -, raw, -, isOf⟩ := exists_of_forall₂ eachReflex mem
        apply wellFormed_of_isOf isOf
      orders := by
        intro e mem
        obtain ⟨_, -, -, -, nodup, defined⟩ := exists_of_forall₂ eachProfile mem
        use nodup
        intro id mem'
        rw [Entries.has_eq_any]
        apply defined id mem'
      default := ⟨p, default, lists⟩
      failures := readFailureSemantics_gives givenFailures
      handshake := by
        obtain empty | defined := readHandshakeDefaults_gives givenDefaults
        · rw [Entries.keys, List.map_eq_nil_iff] at empty
          rw [empty] at default
          simp [Entries.get?] at default
        · have listed := Entries.has_eq_any profiles (.text defaults.profile)
          rw [Entries.has] at listed
          rw [Codex.hasProfile, Codex.profile?, listed]
          apply defined }
  · exact {
      orders := by
        use es, section_
        intro e mem
        obtain ⟨e', mem', key, list, -⟩ := exists_of_forall₂ eachProfile mem
        use e'.2
        rw [key]
        exact ⟨mem', list⟩
      limits := readContextDecay_gives givenDecay
      hidden := readTelemetry_gives givenTelemetry }

theorem wellFormed_of_loaded {v : Value} {c : Codex} (loaded : ofValue v = .ok c) :
  c.WellFormed
  := by
  obtain ⟨doc, -, given⟩ := gives_of_ofValue loaded
  exact (wellFormed_of_gives given).1

/-- No boost of a codex that is loaded is below zero, though it may be no number at all. -/
theorem boost_of_loaded {v : Value} {c : Codex} (loaded : ofValue v = .ok c) (m : Mode) :
  ∃ p, Entries.get? c.modes m = some p ∧ p.confidenceBoost.lt 0 = false
  := by
  obtain ⟨doc, -, given⟩ := gives_of_ofValue loaded
  simp only [Codex.read, gives_bind, gives_pure] at given
  obtain ⟨version, -, tiers, -, modes, givenModes, reflexes, -, profiles, -, decay, -, defaults, -,
    failures, -, telemetry, -, rfl⟩ := given
  exact modes_of_gives givenModes m

/-- Every codex that is loaded is well-formed, and holds what its document says. -/
theorem wellFormed_of_ofValue {v : Value} {c : Codex} (loaded : ofValue v = .ok c) :
  c.WellFormed ∧ ∃ doc, v = .map doc ∧ c.IsOf doc
  := by
  obtain ⟨doc, rfl, given⟩ := gives_of_ofValue loaded
  obtain ⟨wellFormed, isOf⟩ := wellFormed_of_gives given
  exact ⟨wellFormed, doc, rfl, isOf⟩

theorem wellFormed_smallDocument :
  ∃ c, ofValue smallDocument = .ok c ∧ c.WellFormed
    ∧ ∃ doc, smallDocument = .map doc ∧ c.IsOf doc
  := by
  obtain ⟨c, loaded⟩ := exists_of_isOk isOk_smallDocument
  exact ⟨c, loaded, wellFormed_of_ofValue loaded⟩

end ReflexPolicy.Codex
