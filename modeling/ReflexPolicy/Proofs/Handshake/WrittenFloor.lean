import ReflexPolicy.Proofs.Binary64.Nearest
import ReflexPolicy.Proofs.Handshake.Floor
import ReflexPolicy.Proofs.Policy.Confidence

/-!
# The floors of a document

A boost does not lower the floor that a document gives a tier, but the confidence that is asked for
is rounded to six places, and rounding may lower it.  What is asked for, reported or enforced at a
tier is not below its rounded floor: it is less than a millionth below the floor, and not below it at
all when the floor has six places.
-/

namespace ReflexPolicy

/-- What a confidence keeps of the floor of some rules. -/
structure TierPolicy.KeepsFloor (p : TierPolicy) (x : Binary64) : Prop where
  rounded : (p.minConfidence.roundPlaces 6).le x = true
  near : x.Reaches 6 p.minConfidence
  exact : p.minConfidence.HasPlaces 6 → p.minConfidence.le x = true

/-- The confidences of a tier keep its floor: what the codex asks for, what an evaluation reports,
and what a handshake enforces that was built or updated. -/
structure Codex.KeepsFloor (c : Codex) (tier : Tier) (p : TierPolicy) : Prop where
  asked : ∀ mode, ∃ x, c.minConfidence tier mode = .ok x ∧ p.KeepsFloor x
  /-- The direct mode asks for the rounded floor. -/
  direct : ∃ x, c.minConfidence tier .direct = .ok x
    ∧ Number.equals (.float x) (.float (p.minConfidence.roundPlaces 6)) = true
  evaluated : ∀ d r, d.validate = .ok r → r.tier = tier →
    ∃ o, c.evaluate d = .ok o ∧ p.KeepsFloor o.minConfidence
  built : ∀ options h, Handshake.build c options = .ok h → h.tier = tier →
    p.KeepsFloor h.minConfidence
  updated : ∀ base changes h reports, Handshake.update c base changes = .ok (h, reports) →
    h.tier = tier → p.KeepsFloor h.minConfidence

theorem TierPolicy.keepsFloor_of_le {p : TierPolicy} (unit : p.minConfidence.isUnit = true)
    {x : Binary64} (above : (p.minConfidence.roundPlaces 6).le x = true)
    (bounded : x.le 1 = true) :
  p.KeepsFloor x
  where
    rounded := above
    near := Binary64.reaches_of_roundPlaces_le Binary64.tells_six unit above bounded
    exact := by
      intro few
      rwa [Binary64.roundPlaces_of_hasPlaces Binary64.tells_six few] at above

namespace Codex

variable {c : Codex} {tier : Tier} {mode : Mode} {p : TierPolicy} {x : Binary64} {v : Value}

theorem tierPolicy_eq_ok_iff :
  c.tierPolicy tier = .ok p ↔ Entries.get? c.tiers tier = some p
  := by
  rw [tierPolicy]
  cases Entries.get? c.tiers tier <;> simp

/-- The mode does not lower what is asked for below the rounded floor. -/
theorem rounded_le_minConfidence (loaded : ofValue v = .ok c)
    (rules : Entries.get? c.tiers tier = some p) (resolved : c.minConfidence tier mode = .ok x) :
  (p.minConfidence.roundPlaces 6).le x = true
  := by
  obtain ⟨p', q, tierGiven, modeGiven, rfl⟩ := minConfidence_eq_ok_iff.mp resolved
  rw [rules] at tierGiven
  cases tierGiven
  have unit := isUnit_of_tier (wellFormed_of_loaded loaded) rules
  apply Binary64.roundPlaces_le_roundPlaces 6 (Binary64.isUnit_iff.mp unit).1
  apply le_boosted unit (upward_of_mode loaded modeGiven)

/-- Nor does a handshake, whatever it is asked to enforce. -/
theorem keepsFloor_of_enforce (loaded : ofValue v = .ok c)
    (rules : Entries.get? c.tiers tier = some p) {requested : Option Binary64}
    (enforced : Handshake.enforce c tier mode requested = .ok x) :
  p.KeepsFloor x
  := by
  obtain ⟨floor, resolved, above, bounded⟩ := Handshake.enforce_bounds enforced
  apply TierPolicy.keepsFloor_of_le _ _ bounded
  · apply isUnit_of_tier (wellFormed_of_loaded loaded) rules
  · apply Binary64.le_trans (rounded_le_minConfidence loaded rules resolved) above

/-- In the direct mode, what is asked for is the rounded floor. -/
theorem minConfidence_direct_equals (loaded : ofValue v = .ok c)
    (rules : Entries.get? c.tiers tier = some p) (resolved : c.minConfidence tier .direct = .ok x) :
  Number.equals (.float x) (.float (p.minConfidence.roundPlaces 6)) = true
  := by
  have wellFormed := wellFormed_of_loaded loaded
  have above := rounded_le_minConfidence loaded rules resolved
  obtain ⟨p', q, tierGiven, modeGiven, rfl⟩ := minConfidence_eq_ok_iff.mp resolved
  rw [rules] at tierGiven
  cases tierGiven
  have unit := isUnit_of_tier wellFormed rules
  have below := Binary64.roundPlaces_le_roundPlaces 6
    (zero_le_boosted unit (upward_of_mode loaded modeGiven))
    (boosted_le unit (wellFormed.direct q modeGiven))
  rw [Number.equals, Number.le_float, Number.le_float, below, above]
  rfl

/-- Every codex that is loaded keeps the floors of its document up to the last of six places. -/
theorem keepsFloor_of_loaded (loaded : ofValue v = .ok c) (rules : c.tierPolicy tier = .ok p) :
  c.KeepsFloor tier p
  := by
  rw [tierPolicy_eq_ok_iff] at rules
  have wellFormed := wellFormed_of_loaded loaded
  have keeps {mode : Mode} {x : Binary64} (resolved : c.minConfidence tier mode = .ok x) :
      p.KeepsFloor x := by
    apply TierPolicy.keepsFloor_of_le (isUnit_of_tier wellFormed rules)
    · apply rounded_le_minConfidence loaded rules resolved
    · apply Handshake.floor_le_one resolved
  constructor
  case asked =>
    intro mode
    obtain ⟨x, resolved⟩ := minConfidence_of_wellFormed wellFormed tier mode
    exact ⟨x, resolved, keeps resolved⟩
  case direct =>
    obtain ⟨x, resolved⟩ := minConfidence_of_wellFormed wellFormed tier .direct
    exact ⟨x, resolved, minConfidence_direct_equals loaded rules resolved⟩
  case evaluated =>
    rintro d r valid rfl
    obtain ⟨order, rules', o, -, -, answer, answers⟩ := outcome_of_loaded loaded valid
    rw [← evaluate_of_validate valid] at answer
    exact ⟨o, answer, keeps answers.minConfidence⟩
  case built =>
    rintro options h built rfl
    obtain ⟨⟨requested, enforced⟩, -⟩ := Handshake.build_spec built
    exact keepsFloor_of_enforce loaded rules enforced
  case updated =>
    rintro base changes h reports updated rfl
    obtain ⟨⟨requested, enforced⟩, -⟩ := Handshake.update_spec updated
    exact keepsFloor_of_enforce loaded rules enforced

/-- The small document with a floor of seven places at the lowest tier. -/
def finelyWrittenDocument : Value :=
  smallDocumentWith [("tiers", .ofFields [tierEntry .low 0.1234564 0.9, tierEntry .medium 0.5 0.9,
    tierEntry .high 0.75 0.7])]

set_option maxRecDepth 4000 in
theorem keepsFloor_finelyWritten :
  ∃ c p, ofValue finelyWrittenDocument = .ok c ∧ c.tierPolicy .low = .ok p ∧ c.KeepsFloor .low p
  := by
  have computed : passes (fun c => (c.tierPolicy .low).isOk) (ofValue finelyWrittenDocument)
      = true := by decide +kernel
  obtain ⟨c, loaded, computed⟩ := exists_of_passes computed
  obtain ⟨p, rules⟩ := exists_of_isOk computed
  exact ⟨c, p, loaded, rules, keepsFloor_of_loaded loaded rules⟩

set_option maxRecDepth 4000 in
/-- A floor of seven places is not reached: not by what is asked for in the direct mode, and not by a
handshake of that tier and mode. -/
theorem lowered_finelyWritten :
  ∃ c p x h, ofValue finelyWrittenDocument = .ok c ∧ c.tierPolicy .low = .ok p
    ∧ c.minConfidence .low .direct = .ok x ∧ x.lt p.minConfidence = true
    ∧ Handshake.build c [("tier", .text "low"), ("mode", .text "direct")] = .ok h
    ∧ h.minConfidence.lt p.minConfidence = true
  := by
  have computed : passes (fun c => passes (fun p => passes (fun x => x.lt p.minConfidence)
      (c.minConfidence .low .direct) && passes (fun h => h.minConfidence.lt p.minConfidence)
      (Handshake.build c [("tier", .text "low"), ("mode", .text "direct")]))
      (c.tierPolicy .low)) (ofValue finelyWrittenDocument) = true := by decide +kernel
  obtain ⟨c, loaded, computed⟩ := exists_of_passes computed
  obtain ⟨p, rules, computed⟩ := exists_of_passes computed
  rw [Bool.and_eq_true] at computed
  obtain ⟨x, resolved, below⟩ := exists_of_passes computed.1
  obtain ⟨h, built, below'⟩ := exists_of_passes computed.2
  exact ⟨c, p, x, h, loaded, rules, resolved, below, built, below'⟩

end Codex

end ReflexPolicy
