import ReflexPolicy.Policy.Basic
import ReflexPolicy.Proofs.Binary64.Monotone
import ReflexPolicy.Proofs.Codex.Loading

/-!
# Confidence floors

The confidence that a codex asks for at a tier and a mode lies in the unit interval, does not fall as
the risk rises, and is not lower in another mode than in the direct one.  All of this rests on the
sum of a floor and a boost not being below the floor (`le_boosted`); it survives a boost that is
infinite, and one that is no number at all and so stands for the highest confidence.
-/

namespace ReflexPolicy

/-! ### A floor with a boost -/

/-- A floor with a boost, at most one. -/
def boosted (floor boost : Binary64) : Binary64 := Binary64.min 1 (floor.add boost)

section

variable {floor floor' boost : Binary64}

open Binary64

theorem boosted_le_one (floor boost : Binary64) :
  (boosted floor boost).le 1 = true
  := min_le_left (isNan_of_isUnit isUnit_one)

theorem boosted_nan (floor : Binary64) :
  boosted floor .nan = 1
  := by
  rw [boosted, add_nan, min_nan]

/-- A boost does not lower a floor. -/
theorem le_boosted (unit : floor.isUnit = true) (upward : boost.lt 0 = false) :
  floor.le (boosted floor boost) = true
  := by
  obtain ⟨nonneg, le_one⟩ := isUnit_iff.mp unit
  obtain rfl | upward := nan_or_zero_le upward
  · rwa [boosted_nan]
  · apply le_min le_one (le_add nonneg upward)

theorem zero_le_boosted (unit : floor.isUnit = true) (upward : boost.lt 0 = false) :
  Binary64.le 0 (boosted floor boost) = true
  := le_trans (isUnit_iff.mp unit).1 (le_boosted unit upward)

/-- The same boost keeps the order of floors. -/
theorem boosted_le_boosted (unit : floor.isUnit = true) (le : floor.le floor' = true)
    (upward : boost.lt 0 = false) :
  (boosted floor boost).le (boosted floor' boost) = true
  := by
  have nonneg := (isUnit_iff.mp unit).1
  obtain rfl | upward := nan_or_zero_le upward
  · rw [boosted_nan, boosted_nan]
    apply le_refl (isNan_of_isUnit isUnit_one)
  · apply min_le_min_left (isNan_of_isUnit isUnit_one)
    apply add_le_add nonneg upward le (le_refl (isNan_of_le_right upward))

/-- Without a boost, the floor is not raised. -/
theorem boosted_le {zero : Binary64} (unit : floor.isUnit = true)
    (unboosted : zero.extended? = some (.units 0)) :
  (boosted floor zero).le floor = true
  := by
  have nonneg := (isUnit_iff.mp unit).1
  have nothing : Binary64.le 0 zero = true :=
    le_iff.mpr ⟨_, _, extended?_zero, unboosted, Extended.le_refl _⟩
  have below : (boosted floor zero).le (floor.add zero) = true :=
    min_le_right (isNan_of_isUnit isUnit_one) (isNan_add nonneg nothing)
  rwa [le, extended?_add_zero nonneg unboosted] at below

end

namespace Codex

variable {c : Codex} {tier : Tier} {mode : Mode} {x : Binary64}

/-- The confidence that a codex asks for, from its rules. -/
theorem minConfidence_eq_ok_iff :
  c.minConfidence tier mode = .ok x ↔ ∃ p q, Entries.get? c.tiers tier = some p
    ∧ Entries.get? c.modes mode = some q
    ∧ x = (boosted p.minConfidence q.confidenceBoost).roundPlaces 6
  := by
  simp only [minConfidence, bind_eq_ok, pure_eq_ok, tierPolicy, modePolicy, boosted]
  cases Entries.get? c.tiers tier <;> cases Entries.get? c.modes mode <;> simp [eq_comm]

theorem isUnit_of_tier (wellFormed : c.WellFormed) {p : TierPolicy}
    (given : Entries.get? c.tiers tier = some p) :
  p.minConfidence.isUnit = true
  := by
  obtain ⟨p', given', unit, -⟩ := wellFormed.tiers tier
  rw [given] at given'
  cases given'
  exact unit

theorem upward_of_mode {v : Value} (loaded : ofValue v = .ok c) {q : ModePolicy}
    (given : Entries.get? c.modes mode = some q) :
  q.confidenceBoost.lt 0 = false
  := by
  obtain ⟨q', given', upward⟩ := boost_of_loaded loaded mode
  rw [given] at given'
  cases given'
  exact upward

/-- The confidences that a codex asks for are numbers of the unit interval that do not fall as the
risk rises, and are lowest in the direct mode. -/
structure RisingConfidence (c : Codex) : Prop where
  unit : ∀ tier mode, ∃ x, c.minConfidence tier mode = .ok x ∧ x.isUnit = true
  rank : ∀ mode s t x y, s.rank ≤ t.rank → c.minConfidence s mode = .ok x →
    c.minConfidence t mode = .ok y → x.le y = true
  direct : ∀ tier mode x y, c.minConfidence tier .direct = .ok x →
    c.minConfidence tier mode = .ok y → x.le y = true

/-- The confidences of every codex that is loaded rise, whatever its boosts. -/
theorem risingConfidence_of_loaded {v : Value} (loaded : ofValue v = .ok c) :
  c.RisingConfidence
  := by
  have wellFormed := wellFormed_of_loaded loaded
  constructor
  case unit =>
    intro tier mode
    obtain ⟨p, tierGiven, unit, -⟩ := wellFormed.tiers tier
    obtain ⟨q, modeGiven, upward⟩ := boost_of_loaded loaded mode
    refine ⟨_, minConfidence_eq_ok_iff.mpr ⟨p, q, tierGiven, modeGiven, rfl⟩, ?_⟩
    rw [Binary64.isUnit_iff]
    constructor
    · apply Binary64.zero_le_roundPlaces
      apply zero_le_boosted unit upward
    · apply Binary64.roundPlaces_le_one
      apply boosted_le_one
  case rank =>
    intro mode s t x y le atLower atHigher
    obtain ⟨p, q, tierGiven, modeGiven, rfl⟩ := minConfidence_eq_ok_iff.mp atLower
    obtain ⟨p', q', tierGiven', modeGiven', rfl⟩ := minConfidence_eq_ok_iff.mp atHigher
    rw [modeGiven] at modeGiven'
    cases modeGiven'
    have unit := isUnit_of_tier wellFormed tierGiven
    have upward := upward_of_mode loaded modeGiven
    have floors := wellFormed.floors s t p p' le tierGiven tierGiven'
    apply Binary64.roundPlaces_le_roundPlaces
    · apply zero_le_boosted unit upward
    · apply boosted_le_boosted unit floors upward
  case direct =>
    intro tier mode x y atDirect atMode
    obtain ⟨p, q, tierGiven, directGiven, rfl⟩ := minConfidence_eq_ok_iff.mp atDirect
    obtain ⟨p', q', tierGiven', modeGiven, rfl⟩ := minConfidence_eq_ok_iff.mp atMode
    rw [tierGiven] at tierGiven'
    cases tierGiven'
    have unit := isUnit_of_tier wellFormed tierGiven
    have unboosted := wellFormed.direct q directGiven
    apply Binary64.roundPlaces_le_roundPlaces
    · apply zero_le_boosted unit (upward_of_mode loaded directGiven)
    · -- The floor itself lies between the two.
      apply Binary64.le_trans (boosted_le unit unboosted)
      apply le_boosted unit (upward_of_mode loaded modeGiven)

/-- The small document with a boost that is infinite and one that is no number. -/
def limitlessDocument : Value :=
  smallDocumentWith [("modes", .ofFields [("direct", .ofFields []),
    ("careful", .ofFields [("confidence_boost", .float (.infinite false))]),
    ("recap", .ofFields [("confidence_boost", .float .nan)])])]

set_option maxRecDepth 4000 in
theorem risingConfidence_limitlessDocument :
  ∃ c, ofValue limitlessDocument = .ok c
    ∧ (∃ q, Entries.get? c.modes .careful = some q ∧ q.confidenceBoost = .infinite false)
    ∧ (∃ q, Entries.get? c.modes .recap = some q ∧ q.confidenceBoost = .nan)
    ∧ c.RisingConfidence
  := by
  have computed : passes (fun c => decide
      ((Entries.get? c.modes .careful).map (·.confidenceBoost) = some (.infinite false)
        ∧ (Entries.get? c.modes .recap).map (·.confidenceBoost) = some .nan))
      (ofValue limitlessDocument) = true := by decide +kernel
  obtain ⟨c, loaded, computed⟩ := exists_of_passes computed
  obtain ⟨infinite, nan⟩ := of_decide_eq_true computed
  refine ⟨c, loaded, ?_, ?_, risingConfidence_of_loaded loaded⟩
  · rwa [Option.map_eq_some_iff] at infinite
  · rwa [Option.map_eq_some_iff] at nan

end Codex

end ReflexPolicy
