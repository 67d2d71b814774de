import ReflexPolicy.Proofs.Evaluation.Raising

/-!
# Citations under raised scores

A demand for citations outlasts raised scores, but for one case.  When nothing fires, the neutral
score stands in for the top score.  A demand that rests on that alone is withdrawn when reflexes
come to fire whose scores are all below the citation floor: their scores then take the place of
the neutral one.
-/

namespace ReflexPolicy.Codex

/-- Raised scores withdraw a demand for citations: it rested on the neutral score alone, and now
reflexes fire whose scores are all below the citation floor. -/
structure Withdraws (r : Request) (rules : TierPolicy) (o o' : Outcome) : Prop where
  auto : r.citation = .auto
  unclaimed : r.externalClaim = false
  optional : rules.citationRequired = false
  quiet : o.blockedBy = none ∧ o.fired = []
  fires : o'.blockedBy = none ∧ o'.fired ≠ []
  below : ∀ h ∈ o'.fired, rules.citationFloor.le h.score = false

variable {c : Codex} {r r' : Request} {order : List Text} {rules : TierPolicy} {o o' : Outcome}

theorem mem_firing {ids : List Text} {h : Hit} :
  h ∈ c.firing r ids ↔ h.id ∈ ids ∧ c.Fires r h.id ∧ h.score = r.score h.id
  := by
  simp only [firing, List.mem_map, List.mem_filter, decide_eq_true_iff]
  constructor
  · rintro ⟨id, ⟨listed, fires⟩, rfl⟩
    exact ⟨listed, fires, rfl⟩
  · rintro ⟨listed, fires, score⟩
    use h.id, ⟨listed, fires⟩
    rw [← score]

/-- A blocked outcome demands citations. -/
theorem Answers.cites_of_blocked (answers : c.Answers r order rules o) {h : Hit}
    (blocked : o.blockedBy = some h) :
  o.needCitation = true
  := by
  obtain free | ⟨before, id, after, split, free, blocks⟩ := free_or_first c r order
  · rw [(answers.passed free).1] at blocked
    cases blocked
  · obtain ⟨-, -, cites, -⟩ := answers.blocked before id after split free blocks
    apply cites

/-- An outcome that is not blocked demands citations when there is a reason to. -/
theorem Answers.cites_of_passed (answers : c.Answers r order rules o)
    (passed : o.blockedBy = none) :
  o.needCitation = true ↔ Cites r rules o.fired
  := by
  obtain ⟨-, -, cites, -⟩ := answers.passed (answers.free_of_passed passed)
  apply cites

/-- What fires goes on to fire with a score that is no lower, as long as nothing blocks. -/
theorem Raises.mem_fired (raises : c.Raises r r') (answers : c.Answers r order rules o)
    (answers' : c.Answers r' order rules o') (passed : o.blockedBy = none)
    (passed' : o'.blockedBy = none) {h : Hit} (mem : h ∈ o.fired) :
  ∃ h' ∈ o'.fired, h.score.le h'.score = true
  := by
  have free' := answers'.free_of_passed passed'
  obtain ⟨-, fired, -⟩ := answers.passed (answers.free_of_passed passed)
  obtain ⟨-, fired', -⟩ := answers'.passed free'
  rw [fired, mem_firing] at mem
  obtain ⟨listed, fires, score⟩ := mem
  use ⟨h.id, r'.score h.id⟩
  constructor
  · rw [fired', mem_firing]
    exact ⟨listed, raises.fires fires (free' h.id listed), rfl⟩
  · obtain ⟨x, counts, -⟩ := fires
    rw [score]
    apply raises.higher h.id x counts.1

/-- Raised scores keep every reason for citations but the neutral score. -/
theorem Raises.cites (raises : c.Raises r r') (answers : c.Answers r order rules o)
    (answers' : c.Answers r' order rules o') (passed : o.blockedBy = none)
    (passed' : o'.blockedBy = none) (cites : Cites r rules o.fired) :
  Cites r' rules o'.fired ∨ Withdraws r rules o o'
  := by
  have citation : r'.citation = r.citation := by rw [raises.same]
  have claim : r'.externalClaim = r.externalClaim := by rw [raises.same]
  obtain forced | ⟨auto, reason⟩ := cites
  · exact .inl (.inl (citation.trans forced))
  · by_cases reason' : r'.externalClaim = true ∨ rules.citationRequired = true
        ∨ (∃ h ∈ o'.fired, rules.citationFloor.le h.score = true)
        ∨ o'.fired = [] ∧ rules.citationFloor.le 0.5 = true
    · exact .inl (.inr ⟨citation.trans auto, reason'⟩)
    · right
      simp only [not_or, not_exists, not_and, claim, Bool.not_eq_true] at reason'
      obtain ⟨unclaimed, optional, below, still⟩ := reason'
      obtain external | required | ⟨h, mem, reached⟩ | ⟨silent, neutral⟩ := reason
      · rw [external] at unclaimed
        cases unclaimed
      · rw [required] at optional
        cases optional
      · obtain ⟨h', mem', higher⟩ := raises.mem_fired answers answers' passed passed' mem
        have reached' := Binary64.le_trans reached higher
        rw [below h' mem'] at reached'
        cases reached'
      · exact {
          auto := auto
          unclaimed := unclaimed
          optional := optional
          quiet := ⟨passed, silent⟩
          fires := by
            use passed'
            intro silent'
            have := still silent'
            rw [neutral] at this
            cases this
          below := below }

/-- Where a demand is withdrawn, no reason for citations is left. -/
theorem Withdraws.not_cites (withdraws : Withdraws r rules o o') (raises : c.Raises r r') :
  ¬Cites r' rules o'.fired
  := by
  have citation : r'.citation = r.citation := by rw [raises.same]
  have claim : r'.externalClaim = r.externalClaim := by rw [raises.same]
  rintro (forced | ⟨-, external | required | ⟨h, mem, reached⟩ | ⟨silent, -⟩⟩)
  · rw [citation, withdraws.auto] at forced
    cases forced
  · rw [claim, withdraws.unclaimed] at external
    cases external
  · rw [withdraws.optional] at required
    cases required
  · rw [withdraws.below h mem] at reached
    cases reached
  · apply withdraws.fires.2 silent

theorem Raises.needCitation (raises : c.Raises r r') (answers : c.Answers r order rules o)
    (answers' : c.Answers r' order rules o') (demanded : o.needCitation = true) :
  o'.needCitation = true ↔ ¬Withdraws r rules o o'
  := by
  cases blocked' : o'.blockedBy with
  | some h' =>
    apply iff_of_true (answers'.cites_of_blocked blocked')
    intro withdraws
    rw [withdraws.fires.1] at blocked'
    cases blocked'
  | none =>
    cases blocked : o.blockedBy with
    | some h =>
      obtain ⟨h', -, -, blocked'', -⟩ := raises.blocked answers answers' blocked
      rw [blocked'] at blocked''
      cases blocked''
    | none =>
      rw [answers'.cites_of_passed blocked']
      rw [answers.cites_of_passed blocked] at demanded
      constructor
      · intro cites withdraws
        apply withdraws.not_cites raises cites
      · intro kept
        obtain cites | withdraws := raises.cites answers answers' blocked blocked' demanded
        · apply cites
        · exact absurd withdraws kept

/-- Whoever scores no lower is asked for citations if asked before, unless the raised scores withdraw
the demand. -/
theorem evaluate_demanding {v : Value} {d d' : Draft} (loaded : ofValue v = .ok c)
    (valid : d.validate = .ok r) (valid' : d'.validate = .ok r') (raises : c.Raises r r') :
  ∃ rules o o', Entries.get? c.tiers r.tier = some rules
    ∧ c.evaluate d = .ok o ∧ c.evaluate d' = .ok o'
    ∧ (o.needCitation = true → (o'.needCitation = true ↔ ¬Withdraws r rules o o'))
  := by
  obtain ⟨p, rules, o, resolves, -, tier, answer, answers⟩ := evaluate_of_loaded loaded valid
  obtain ⟨p', rules', o', resolves', -, tier', answer', answers'⟩ :=
    evaluate_of_loaded loaded valid'
  have same : p = p' := (raises.resolves resolves).unique resolves'
  rw [raises.tier, tier] at tier'
  cases tier'
  rw [← same] at answers'
  use rules, o, o', tier, answer, answer'
  apply raises.needCitation answers answers'

/-! ### An eager codex -/

/-- A document whose tiers ask for citations from low scores on, with a reflex that fires from lower
ones on. -/
def eagerDocument : Value :=
  smallDocumentWith [
    ("tiers", .ofFields [tierEntry .low 0.5 0.4, tierEntry .medium 0.5 0.4,
      tierEntry .high 0.75 0.4]),
    ("reflexes", .ofFields [("hint", .ofFields [("trigger_at", .float 0.2)])]),
    ("profiles", .ofFields [("default", .list [.text "hint"])])]

/-- A request with a score for the reflex of the eager document. -/
def hinted (score : Binary64) : Request := scored [("hint", score)]

theorem raises_hinted (c : Codex) {low high : Binary64} (h : low.le high = true) :
  c.Raises (hinted low) (hinted high)
  where
    same := rfl
    higher := by
      intro id x _
      simp only [Request.score, hinted, scored, Entries.getD, Entries.get?]
      by_cases hint : ("hint" : Text) = id
      · subst hint
        simpa using h
      · simp only [beq_iff_eq, hint, if_false]
        decide +kernel

set_option maxRecDepth 4000 in
theorem validate_hinted :
  (hinted 0).draft.validate = .ok (hinted 0)
    ∧ (hinted 0.3).draft.validate = .ok (hinted 0.3)
    ∧ (hinted 0.45).draft.validate = .ok (hinted 0.45)
    ∧ (hinted 0.9).draft.validate = .ok (hinted 0.9)
  := ⟨rfl, rfl, rfl, rfl⟩

set_option maxRecDepth 4000 in
theorem isOk_eagerDocument :
  (ofValue eagerDocument).isOk = true
  := by decide +kernel

theorem evaluate_demanding_hinted :
  ∃ c, ofValue eagerDocument = .ok c
    ∧ (hinted 0.45).draft.validate = .ok (hinted 0.45)
    ∧ (hinted 0.9).draft.validate = .ok (hinted 0.9)
    ∧ c.Raises (hinted 0.45) (hinted 0.9)
    ∧ ∃ rules o o', Entries.get? c.tiers (hinted 0.45).tier = some rules
      ∧ c.evaluate (hinted 0.45).draft = .ok o ∧ c.evaluate (hinted 0.9).draft = .ok o'
      ∧ (o.needCitation = true →
        (o'.needCitation = true ↔ ¬Withdraws (hinted 0.45) rules o o'))
  := by
  obtain ⟨c, loaded⟩ := exists_of_isOk isOk_eagerDocument
  obtain ⟨-, -, valid, valid'⟩ := validate_hinted
  have raises : c.Raises (hinted 0.45) (hinted 0.9) := raises_hinted c (by decide +kernel)
  use c, loaded, valid, valid', raises
  exact evaluate_demanding loaded valid valid' raises

set_option maxRecDepth 4000 in
/-- A demand for citations is withdrawn when a score rises: the neutral score is above the citation
floor, and the raised one below it. -/
theorem withdrawn_hinted :
  ∃ c o o', ofValue eagerDocument = .ok c
    ∧ (hinted 0).draft.validate = .ok (hinted 0)
    ∧ (hinted 0.3).draft.validate = .ok (hinted 0.3)
    ∧ c.Raises (hinted 0) (hinted 0.3)
    ∧ c.evaluate (hinted 0).draft = .ok o ∧ c.evaluate (hinted 0.3).draft = .ok o'
    ∧ o.needCitation = true ∧ o'.needCitation = false
  := by
  have computed : passes (fun c => passes (fun o => passes (fun o' => o.needCitation
      && !o'.needCitation) (c.evaluate (hinted 0.3).draft)) (c.evaluate (hinted 0).draft))
      (ofValue eagerDocument) = true := by decide +kernel
  obtain ⟨valid, valid', -⟩ := validate_hinted
  obtain ⟨c, loaded, computed⟩ := exists_of_passes computed
  obtain ⟨o, answer, computed⟩ := exists_of_passes computed
  obtain ⟨o', answer', computed⟩ := exists_of_passes computed
  rw [Bool.and_eq_true, Bool.not_eq_true'] at computed
  exact ⟨c, o, o', loaded, valid, valid', raises_hinted c (by decide +kernel), answer, answer',
    computed⟩

end ReflexPolicy.Codex
