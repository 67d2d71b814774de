import ReflexPolicy.Proofs.Evaluation.Answer

/-!
# Raising scores

A request raises another one when it differs from it in the scores only, and no reflex of the codex
scores lower.  What blocks goes on to block then, and what fires goes on to fire unless it blocks:
nobody gets past a reflex by scoring worse.
-/

namespace ReflexPolicy.Codex

/-- The second request differs from the first one in the scores only, and no reflex scores lower in
it. -/
structure Raises (c : Codex) (r r' : Request) : Prop where
  same : r' = { r with scores := r'.scores }
  higher : ∀ id x, c.reflexNamed? id = some x → (r.score id).le (r'.score id) = true

variable {c : Codex} {r r' : Request} {id : Text}

/-! ### Single reflexes -/

theorem Raises.tier (raises : c.Raises r r') :
  r'.tier = r.tier
  := by rw [raises.same]

theorem Raises.resolves (raises : c.Raises r r') {p : Profile} (resolves : c.Resolves r p) :
  c.Resolves r' p
  := by
  have profile : r'.profile = r.profile := by rw [raises.same]
  rw [Resolves, profile]
  apply resolves

theorem Raises.counts (raises : c.Raises r r') {x : Reflex} (counts : c.Counts r id x) :
  c.Counts r' id x
  := by
  rw [Counts, raises.tier]
  apply counts

theorem Raises.blocks (raises : c.Raises r r') (blocks : c.Blocks r id) :
  c.Blocks r' id
  := by
  obtain ⟨x, b, counts, threshold, reached⟩ := blocks
  rw [← raises.tier] at threshold
  use x, b, raises.counts counts, threshold
  apply Binary64.le_trans reached (raises.higher id x counts.1)

/-- A reflex that fires goes on to fire, unless it has come to block. -/
theorem Raises.fires (raises : c.Raises r r') (fires : c.Fires r id) (free : ¬c.Blocks r' id) :
  c.Fires r' id
  := by
  obtain ⟨x, counts, -, reached⟩ := fires
  use x, raises.counts counts, free
  apply Binary64.le_trans reached (raises.higher id x counts.1)

/-! ### Outcomes -/

variable {order : List Text} {rules rules' : TierPolicy} {o o' : Outcome}

/-- What blocks is the first reflex of the order that does. -/
theorem Answers.first_of_blocked (answers : c.Answers r order rules o) {h : Hit}
    (blocked : o.blockedBy = some h) :
  ∃ before after, order = before ++ h.id :: after ∧ c.Blocks r h.id
  := by
  obtain free | ⟨before, id, after, split, free, blocks⟩ := free_or_first c r order
  · rw [(answers.passed free).1] at blocked
    cases blocked
  · rw [(answers.blocked before id after split free blocks).1] at blocked
    cases blocked
    exact ⟨before, after, split, blocks⟩

/-- If nothing blocked then no reflex of the order does. -/
theorem Answers.free_of_passed (answers : c.Answers r order rules o) (passed : o.blockedBy = none) :
  ∀ id ∈ order, ¬c.Blocks r id
  := by
  obtain free | ⟨before, id, after, split, free, blocks⟩ := free_or_first c r order
  · apply free
  · rw [(answers.blocked before id after split free blocks).1] at passed
    cases passed

theorem Answers.ids_of_passed (answers : c.Answers r order rules o) (passed : o.blockedBy = none) :
  o.fired.map Hit.id = order.filter fun id => c.Fires r id
  := by
  rw [(answers.passed (answers.free_of_passed passed)).2.1]
  apply ids_firing

/-- Raised scores block where the lower ones did, or earlier. -/
theorem Raises.blocked (raises : c.Raises r r') (answers : c.Answers r order rules o)
    (answers' : c.Answers r' order rules' o') {h : Hit} (blocked : o.blockedBy = some h) :
  ∃ h' before after, o'.blockedBy = some h' ∧ order = before ++ h.id :: after
    ∧ (h'.id ∈ before ∨ h'.id = h.id)
  := by
  obtain ⟨before, after, split, blocks⟩ := answers.first_of_blocked blocked
  obtain free | ⟨before', id', after', split', free', blocks'⟩ :=
    free_or_first c r' (before ++ [h.id])
  · exact absurd (raises.blocks blocks) (free h.id (by simp))
  · have whole : order = before' ++ id' :: (after' ++ after) := by
      rw [split, List.append_cons, split']
      simp
    obtain ⟨blockedBy, -⟩ := answers'.blocked before' id' (after' ++ after) whole free' blocks'
    use ⟨id', r'.score id'⟩, before, after, blockedBy, split
    have mem : id' ∈ before ++ [h.id] := by simp [split']
    rw [List.mem_append, List.mem_singleton] at mem
    apply mem

/-- Raised scores let fire what the lower ones did, as long as nothing blocks. -/
theorem Raises.fired (raises : c.Raises r r') (answers : c.Answers r order rules o)
    (answers' : c.Answers r' order rules' o') (passed : o.blockedBy = none)
    (passed' : o'.blockedBy = none) :
  ∀ id ∈ o.fired.map Hit.id, id ∈ o'.fired.map Hit.id
  := by
  rw [answers.ids_of_passed passed, answers'.ids_of_passed passed']
  intro id mem
  rw [List.mem_filter, decide_eq_true_iff] at mem ⊢
  use mem.1
  apply raises.fires mem.2
  apply answers'.free_of_passed passed' id mem.1

/-- Whoever scores no lower is blocked by the same reflex or by an earlier one of the order, if
blocked before; and of what fired before all fires again, if nothing blocks. -/
theorem evaluate_raised {v : Value} {d d' : Draft} (loaded : ofValue v = .ok c)
    (valid : d.validate = .ok r) (valid' : d'.validate = .ok r') (raises : c.Raises r r') :
  ∃ p o o', c.Resolves r p ∧ c.Resolves r' p ∧ p.order.Nodup
    ∧ c.evaluate d = .ok o ∧ c.evaluate d' = .ok o'
    ∧ (∀ h, o.blockedBy = some h → ∃ h' before after, o'.blockedBy = some h'
      ∧ p.order = before ++ h.id :: after ∧ (h'.id ∈ before ∨ h'.id = h.id))
    ∧ (o.blockedBy = none → o'.blockedBy = none →
      ∀ id ∈ o.fired.map Hit.id, id ∈ o'.fired.map Hit.id)
  := by
  obtain ⟨p, rules, o, resolves, nodup, answer, answers⟩ := outcome_of_loaded loaded valid
  obtain ⟨p', rules', o', resolves', -, answer', answers'⟩ := outcome_of_loaded loaded valid'
  have same : p = p' := (raises.resolves resolves).unique resolves'
  rw [← same] at resolves' answers'
  rw [← evaluate_of_validate valid] at answer
  rw [← evaluate_of_validate valid'] at answer'
  refine ⟨p, o, o', resolves, resolves', nodup, answer, answer', ?_, ?_⟩
  · intro h
    apply raises.blocked answers answers'
  · apply raises.fired answers answers'

/-! ### A small request -/

/-- A request with some scores. -/
def scored (scores : Entries Text Binary64) : Request where
  tier := .high
  mode := .direct
  scores := scores
  age := { turns := 0, tokens := 0 }
  externalClaim := false
  citation := .auto
  omission := none
  profile := "default"

/-- Scores for the small document, one of which blocks. -/
def lowScores : Entries Text Binary64 := [("claim", 0.9)]

/-- Scores that are no lower, one of them for another reflex. -/
def highScores : Entries Text Binary64 := [("tone", 0.2), ("claim", 0.95)]

set_option maxRecDepth 4000 in
theorem validate_lowScores :
  (scored lowScores).draft.validate = .ok (scored lowScores)
  := by rfl

set_option maxRecDepth 4000 in
theorem validate_highScores :
  (scored highScores).draft.validate = .ok (scored highScores)
  := by rfl

theorem raises_highScores (c : Codex) :
  c.Raises (scored lowScores) (scored highScores)
  where
    same := rfl
    higher := by
      intro id x _
      simp only [Request.score, scored, lowScores, highScores, Entries.getD, Entries.get?]
      by_cases claim : ("claim" : Text) = id
      · subst claim
        decide +kernel
      · by_cases tone : ("tone" : Text) = id
        · subst tone
          decide +kernel
        · simp only [beq_iff_eq, claim, tone]
          decide +kernel

theorem evaluate_raised_highScores :
  ∃ c, ofValue smallDocument = .ok c
    ∧ (scored lowScores).draft.validate = .ok (scored lowScores)
    ∧ (scored highScores).draft.validate = .ok (scored highScores)
    ∧ c.Raises (scored lowScores) (scored highScores)
    ∧ ∃ p o o', c.Resolves (scored lowScores) p ∧ c.Resolves (scored highScores) p
      ∧ p.order.Nodup
      ∧ c.evaluate (scored lowScores).draft = .ok o ∧ c.evaluate (scored highScores).draft = .ok o'
      ∧ (∀ h, o.blockedBy = some h → ∃ h' before after, o'.blockedBy = some h'
        ∧ p.order = before ++ h.id :: after ∧ (h'.id ∈ before ∨ h'.id = h.id))
      ∧ (o.blockedBy = none → o'.blockedBy = none →
        ∀ id ∈ o.fired.map Hit.id, id ∈ o'.fired.map Hit.id)
  := by
  obtain ⟨c, loaded⟩ := exists_of_isOk isOk_smallDocument
  use c, loaded, validate_lowScores, validate_highScores, raises_highScores c
  exact evaluate_raised loaded validate_lowScores validate_highScores (raises_highScores c)

end ReflexPolicy.Codex
