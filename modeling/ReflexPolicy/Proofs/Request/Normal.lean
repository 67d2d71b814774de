import ReflexPolicy.Proofs.Evaluation.Answer

/-!
# Requests in normal form

A request that has been checked can be written as a draft: its words by their names, its scores and
its ages as numbers.  That draft is in turn checked, to the same request, so that checking a request
once more changes nothing, and nothing that is evaluated can tell whether it has been.
-/

namespace ReflexPolicy

/-! ### Normal forms of single fields -/

theorem parse_tier_name (tier : Tier) :
  Tier.parse (.text tier.name) = .ok tier
  := by cases tier <;> rfl

theorem parse_mode_name (mode : Mode) :
  Mode.parse (.text mode.name) = .ok mode
  := by cases mode <;> rfl

theorem parse_citation_name (citation : CitationOverride) :
  CitationOverride.parse (.text citation.name) = .ok citation
  := by cases citation <;> rfl

theorem parse_omissionValue (omission : OmissionOverride) :
  OmissionOverride.parse (Request.omissionValue omission) = .ok omission
  := by cases omission <;> rfl

theorem checkScores_scoresValue {scores : Entries Text Binary64}
    (units : ∀ e ∈ scores, e.2.isUnit = true) :
  checkScores (scores.map fun s => (.text s.1, .float s.2)) = .ok scores
  := by
  induction scores with
  | nil => rfl
  | cons e rest ih =>
    obtain ⟨unit, units⟩ := List.forall_mem_cons.mp units
    have checked : checkScore (.text e.1) (.float e.2) = .ok e.2 := by
      simp [checkScore, Value.number?, Number.toBinary64?, unit]
    simp [checkScores, checked, ih units, bind, Except.bind, pure, Except.pure]

theorem checkAge_counts (age : ContextAge) :
  checkAge (.counts (.int age.turns) (.int age.tokens)) = .ok age
  := by
  simp [checkAge, checkCount, bind, Except.bind, pure, Except.pure]

theorem Text.isEmpty_iff {t : Text} :
  t.isEmpty = true ↔ t = ""
  := by
  obtain ⟨letters⟩ := t
  cases letters with
  | nil => exact iff_of_true rfl rfl
  | cons l rest =>
    constructor
    · intro empty
      cases empty
    · intro same
      cases same

/-- The name of a profile is a text, and not the empty one. -/
theorem checkProfile_eq_ok_iff {v : Value} {name : Text} :
  checkProfile v = .ok name ↔ v = .text name ∧ name ≠ ""
  := by
  rw [checkProfile.eq_def]
  split
  · rename_i t
    rw [ne_eq, ← Text.isEmpty_iff, Value.scalar.injEq, Scalar.text.injEq]
    split
    · rename_i empty
      refine iff_of_false (by simp) ?_
      rintro ⟨rfl, named⟩
      exact named empty
    · rename_i named
      rw [Except.ok.injEq]
      exact (and_iff_left_of_imp fun same => same ▸ named).symm
  · rename_i not_text
    refine iff_of_false (by simp) ?_
    rintro ⟨rfl, -⟩
    exact not_text _ rfl

/-! ### Requests -/

/-- The scores of the request are numbers of the unit interval, and its profile has a name. -/
structure Request.IsNormal (r : Request) : Prop where
  scores : ∀ e ∈ r.scores, e.2.isUnit = true
  profile : r.profile ≠ ""

theorem Draft.isNormal_of_validate {d : Draft} {r : Request} (valid : d.validate = .ok r) :
  r.IsNormal
  where
    scores := isUnit_of_validate valid
    profile := (checkProfile_eq_ok_iff.mp (Draft.validate_eq_ok_iff.mp valid).profile).2

/-- A request in normal form, written as a draft, passes as itself. -/
theorem Request.IsNormal.passes {r : Request} (normal : r.IsNormal) :
  r.draft.Passes r
  where
    tier := parse_tier_name r.tier
    mode := parse_mode_name r.mode
    citation := parse_citation_name r.citation
    omission := parse_omissionValue r.omission
    scores := ⟨_, rfl, checkScores_scoresValue normal.scores⟩
    age := checkAge_counts r.age
    external := rfl
    profile := checkProfile_eq_ok_iff.mpr ⟨rfl, normal.profile⟩

/-- A request that has been checked is checked to itself, and no evaluation distinguishes it from the
draft that it comes from: not by the outcome, not by the fault, and not by what a sink is told. -/
theorem Draft.validate_draft {d : Draft} {r : Request} (valid : d.validate = .ok r) :
  r.draft.validate = .ok r
    ∧ ∀ c : Codex, c.evaluate r.draft = c.evaluate d
      ∧ ∀ (σ : Type) (sink : Option (Sink σ)) (now : Value) (state : σ),
        c.evaluateWith r.draft sink now state = c.evaluateWith d sink now state
  := by
  have again : r.draft.validate = .ok r :=
    Draft.validate_eq_ok_iff.mpr (Draft.isNormal_of_validate valid).passes
  use again
  intro c
  have same : c.evaluate r.draft = c.evaluate d := by
    rw [Codex.evaluate_of_validate again, Codex.evaluate_of_validate valid]
  use same
  intro σ sink now state
  rw [Codex.evaluateWith, Codex.evaluateWith, same]

/-- A draft that is written with every leniency. -/
def lenientDraft : Draft where
  tier := .text " HIGH "
  mode := .text "--Careful"
  scores := .map [(.text "claim", .int 1), (.text "tone", .float 0.25)]
  age := .counts (.float 3) (.int 40000)
  externalClaim := .bool true
  citation := .null
  omission := .text "Yes"
  profile := .text "strict"

set_option maxRecDepth 4000 in
theorem validate_draft_lenient :
  ∃ r, lenientDraft.validate = .ok r ∧ r.draft.validate = .ok r
    ∧ ∀ c : Codex, c.evaluate r.draft = c.evaluate lenientDraft
      ∧ ∀ (σ : Type) (sink : Option (Sink σ)) (now : Value) (state : σ),
        c.evaluateWith r.draft sink now state = c.evaluateWith lenientDraft sink now state
  := by
  have computed : lenientDraft.validate.isOk = true := by decide +kernel
  obtain ⟨r, valid⟩ := exists_of_isOk computed
  exact ⟨r, valid, Draft.validate_draft valid⟩

end ReflexPolicy
