import Mathlib.Data.Option.Basic
import Mathlib.Data.List.Forall2
import ReflexPolicy.Proofs.Evaluation.Demand

/-!
# Scores that matter

Which scores can make a difference to an evaluation: those of the reflexes that count at the tier
and stand in the order up to the one that blocks.  Requests that agree on these are answered alike,
and the same is told to a sink, whatever else their scores hold and in which order.
-/

namespace ReflexPolicy

attribute [ext] Outcome

/-! ### Outcomes that are alike -/

/-- The scores are one number; the sign of zero makes no difference. -/
def SameScore (a b : Binary64) : Prop := a.le b = true ∧ b.le a = true

/-- The hits are of one reflex with one score. -/
def Hit.Alike (h h' : Hit) : Prop := h'.id = h.id ∧ SameScore h.score h'.score

/-- The outcomes are the same in every field. -/
structure Outcome.Alike (o o' : Outcome) : Prop where
  minConfidence : o'.minConfidence = o.minConfidence
  fired : List.Forall₂ Hit.Alike o.fired o'.fired
  blockedBy : Option.Rel Hit.Alike o.blockedBy o'.blockedBy
  needCitation : o'.needCitation = o.needCitation
  runOmissionScan : o'.runOmissionScan = o.runOmissionScan
  contextExpired : o'.contextExpired = o.contextExpired
  codexVersion : o'.codexVersion = o.codexVersion
  profile : o'.profile = o.profile

/-- The fields of a payload are under one key, and hold one value or one score. -/
def AlikeField (e e' : Scalar × Value) : Prop :=
  e'.1 = e.1 ∧ (e'.2 = e.2 ∨ ∃ a b, e.2 = .float a ∧ e'.2 = .float b ∧ SameScore a b)

/-- The events are the same. -/
def Event.Alike (e e' : Event) : Prop :=
  e'.name = e.name ∧ List.Forall₂ AlikeField e.payload e'.payload

theorem AlikeField.refl (e : Scalar × Value) :
  AlikeField e e
  := ⟨rfl, .inl rfl⟩

theorem Outcome.Alike.announcement {o o' : Outcome} (alike : o.Alike o') :
  o.announcement.Alike o'.announcement
  := by
  have blockedBy := alike.blockedBy
  simp only [Outcome.announcement]
  cases given : o.blockedBy with
  | none =>
    rw [given] at blockedBy
    cases given' : o'.blockedBy with
    | none =>
      have length := alike.fired.length_eq
      simp only [Event.Alike, length, alike.needCitation, alike.runOmissionScan,
        alike.contextExpired, true_and]
      exact List.forall₂_same.mpr fun e _ => .refl e
    | some h' =>
      rw [given'] at blockedBy
      cases blockedBy
  | some h =>
    rw [given] at blockedBy
    cases given' : o'.blockedBy with
    | none =>
      rw [given'] at blockedBy
      cases blockedBy
    | some h' =>
      rw [given'] at blockedBy
      obtain ⟨id, score⟩ : h.Alike h' := by
        cases blockedBy
        assumption
      simp only [id]
      exact ⟨rfl, .cons (.refl _) (.cons ⟨rfl, .inr ⟨_, _, rfl, rfl, score⟩⟩ .nil)⟩

namespace Codex

/-- The event that the announcement of an outcome sends. -/
def sent? (c : Codex) (o : Outcome) (now : Value) : Option Event :=
  c.outgoing? o.announcement.name (.map o.announcement.payload) now

theorem alike_redact (c : Codex) {payload payload' : Entries Scalar Value}
    (alike : List.Forall₂ AlikeField payload payload') :
  List.Forall₂ AlikeField (c.redact payload) (c.redact payload')
  := by
  simp only [redact, List.forall₂_map_left_iff, List.forall₂_map_right_iff]
  apply alike.imp
  rintro e e' ⟨key, value⟩
  rw [AlikeField, key]
  by_cases hidden : c.hides e.1
  · simp [hidden]
  · simpa [hidden] using value

theorem alike_addMissing {payload payload' : Entries Scalar Value}
    (alike : List.Forall₂ AlikeField payload payload') (name : String) (v : Value) :
  List.Forall₂ AlikeField (addMissing payload name v) (addMissing payload' name v)
  := by
  have keys : Entries.keys payload' = Entries.keys payload := by
    induction alike with
    | nil => rfl
    | cons first _ ih => simpa [Entries.keys, first.1] using ih
  rw [addMissing, addMissing, Entries.has_eq_any payload', keys, ← Entries.has_eq_any]
  split
  · apply alike
  · exact List.rel_append alike (.cons (.refl _) .nil)

theorem payloadOf?_map (es : Entries Scalar Value) :
  payloadOf? (.map es) = some es
  := by cases es <;> rfl

/-- Outcomes that are alike send events that are the same. -/
theorem alike_sent? (c : Codex) {o o' : Outcome} (alike : o.Alike o') (now : Value) :
  Option.Rel Event.Alike (c.sent? o now) (c.sent? o' now)
  := by
  obtain ⟨name, payload⟩ := alike.announcement
  simp only [sent?, outgoing?, payloadOf?_map]
  split
  · apply Option.Rel.some
    use name
    apply alike_addMissing
    apply alike_addMissing
    apply c.alike_redact payload
  · exact .none

/-- Two drafts lead to the same outcome, and leave every sink in the same state. -/
def SameConduct (c : Codex) (d d' : Draft) : Prop :=
  ∀ (σ : Type) (sink : Option (Sink σ)) (now : Value) (state : σ),
    c.evaluateWith d' sink now state = c.evaluateWith d sink now state

/-! ### Reflexes that agree -/

/-- The reflex has a say in the outcome: it counts at the tier, and stands in the order, at the
latest where the outcome is blocked. -/
def Matters (c : Codex) (r : Request) (order : List Text) (o : Outcome) (id : Text) : Prop :=
  (∃ x, c.Counts r id x) ∧ id ∈ order ∧ ∀ h, o.blockedBy = some h →
    ∃ before after, order = before ++ h.id :: after ∧ (id ∈ before ∨ id = h.id)

/-- The second request differs from the first one in the scores only. -/
def Rescores (r r' : Request) : Prop := r' = { r with scores := r'.scores }

/-- The reflexes that count among some score the same in both requests. -/
def Agree (c : Codex) (r r' : Request) (ids : List Text) : Prop :=
  ∀ id ∈ ids, ∀ x, c.Counts r id x → SameScore (r.score id) (r'.score id)

end Codex

/-- The hit with the score that a request has for its reflex. -/
def Hit.rescored (r : Request) (h : Hit) : Hit := ⟨h.id, r.score h.id⟩

/-- The outcome with the scores of a request for its hits. -/
def Outcome.rescored (r : Request) (o : Outcome) : Outcome :=
  { o with
    fired := o.fired.map (Hit.rescored r)
    blockedBy := o.blockedBy.map (Hit.rescored r) }

namespace Codex

variable {c : Codex} {r r' : Request} {order ids : List Text} {rules : TierPolicy}
  {o o' : Outcome} {id : Text}

theorem Rescores.counts_iff (rescores : Rescores r r') {x : Reflex} :
  c.Counts r' id x ↔ c.Counts r id x
  := by
  have tier : r'.tier = r.tier := by rw [rescores]
  rw [Counts, Counts, tier]

theorem Rescores.blocks_iff (rescores : Rescores r r') (agree : c.Agree r r' ids)
    (mem : id ∈ ids) :
  c.Blocks r' id ↔ c.Blocks r id
  := by
  have tier : r'.tier = r.tier := by rw [rescores]
  constructor
  · rintro ⟨x, b, counts, threshold, reached⟩
    rw [rescores.counts_iff] at counts
    rw [tier] at threshold
    use x, b, counts, threshold
    apply Binary64.le_trans reached (agree id mem x counts).2
  · rintro ⟨x, b, counts, threshold, reached⟩
    rw [← tier] at threshold
    use x, b, rescores.counts_iff.mpr counts, threshold
    apply Binary64.le_trans reached (agree id mem x counts).1

theorem Rescores.fires_iff (rescores : Rescores r r') (agree : c.Agree r r' ids)
    (mem : id ∈ ids) :
  c.Fires r' id ↔ c.Fires r id
  := by
  simp only [Fires, rescores.blocks_iff agree mem, rescores.counts_iff]
  constructor
  · rintro ⟨x, counts, free, reached⟩
    use x, counts, free
    apply Binary64.le_trans reached (agree id mem x counts).2
  · rintro ⟨x, counts, free, reached⟩
    use x, counts, free
    apply Binary64.le_trans reached (agree id mem x counts).1

theorem Rescores.firing (rescores : Rescores r r') (agree : c.Agree r r' ids) :
  c.firing r' ids = (c.firing r ids).map (Hit.rescored r')
  := by
  have same : (ids.filter fun id => c.Fires r' id) = ids.filter fun id => c.Fires r id := by
    apply List.filter_congr
    intro id mem
    rw [decide_eq_decide]
    apply rescores.fires_iff agree mem
  simp [Codex.firing, same, Hit.rescored, Function.comp_def]

theorem Rescores.free_iff (rescores : Rescores r r') (agree : c.Agree r r' ids) :
  (∀ id ∈ ids, ¬c.Blocks r' id) ↔ ∀ id ∈ ids, ¬c.Blocks r id
  := by
  apply forall₂_congr
  intro id mem
  rw [rescores.blocks_iff agree mem]

/-- Reflexes that score the same are the same reasons for citations. -/
theorem Rescores.cites_iff (rescores : Rescores r r') {fired : List Hit}
    (same : ∀ h ∈ fired, SameScore h.score (r'.score h.id)) :
  Cites r' rules (fired.map (Hit.rescored r')) ↔ Cites r rules fired
  := by
  have citation : r'.citation = r.citation := by rw [rescores]
  have claim : r'.externalClaim = r.externalClaim := by rw [rescores]
  have reached : (∃ h ∈ fired.map (Hit.rescored r'), rules.citationFloor.le h.score = true)
      ↔ ∃ h ∈ fired, rules.citationFloor.le h.score = true := by
    simp only [List.mem_map, exists_exists_and_eq_and, Hit.rescored]
    apply exists_congr
    intro h
    apply and_congr_right
    intro mem
    exact ⟨fun high => Binary64.le_trans high (same h mem).2,
      fun high => Binary64.le_trans high (same h mem).1⟩
  rw [Cites, Cites, citation, claim, reached, List.map_eq_nil_iff]

/-! ### Outcomes that agree -/

theorem matters_of_passed (passed : o.blockedBy = none) (mem : id ∈ order) {x : Reflex}
    (counts : c.Counts r id x) :
  c.Matters r order o id
  := ⟨⟨x, counts⟩, mem, by simp [passed]⟩

theorem matters_of_blocked {before after : List Text} {h : Hit} (blocked : o.blockedBy = some h)
    (split : order = before ++ h.id :: after) (place : id ∈ before ++ [h.id]) {x : Reflex}
    (counts : c.Counts r id x) :
  c.Matters r order o id
  := by
  rw [List.mem_append, List.mem_singleton] at place
  refine ⟨⟨x, counts⟩, ?_, ?_⟩
  · rw [split]
    obtain mem | rfl := place <;> simp [*]
  · intro h' blocked'
    rw [blocked] at blocked'
    cases blocked'
    exact ⟨before, after, split, place⟩

/-- The hits of an outcome are of reflexes that matter, with the scores of the request. -/
theorem Answers.matters (answers : c.Answers r order rules o) {h : Hit}
    (hit : h ∈ o.fired ∨ o.blockedBy = some h) :
  c.Matters r order o h.id ∧ h.score = r.score h.id
  := by
  obtain free | ⟨before, id, after, split, free, blocks⟩ := free_or_first c r order
  · obtain ⟨passed, fired, -⟩ := answers.passed free
    obtain mem | blocked := hit
    · rw [fired, mem_firing] at mem
      obtain ⟨listed, ⟨x, counts, -⟩, score⟩ := mem
      exact ⟨matters_of_passed passed listed counts, score⟩
    · rw [passed] at blocked
      cases blocked
  · obtain ⟨blockedBy, fired, -⟩ := answers.blocked before id after split free blocks
    obtain mem | blocked := hit
    · rw [fired, mem_firing] at mem
      obtain ⟨listed, ⟨x, counts, -⟩, score⟩ := mem
      exact ⟨matters_of_blocked blockedBy split (by simp [listed]) counts, score⟩
    · rw [blockedBy] at blocked
      cases blocked
      obtain ⟨x, b, counts, -⟩ := blocks
      exact ⟨matters_of_blocked blockedBy split (by simp) counts, rfl⟩

/-- No score has a part in the confidence floor and the profile. -/
theorem Answers.frame (answers : c.Answers r order rules o)
    (answers' : c.Answers r' order rules o') (rescores : Rescores r r') :
  o'.minConfidence = o.minConfidence ∧ o'.codexVersion = o.codexVersion
    ∧ o'.profile = o.profile
  := by
  refine ⟨?_, answers'.codexVersion.trans answers.codexVersion.symm, ?_⟩
  · have tier : r'.tier = r.tier := by rw [rescores]
    have mode : r'.mode = r.mode := by rw [rescores]
    have floor := answers'.minConfidence
    rw [tier, mode, answers.minConfidence, Except.ok.injEq] at floor
    apply floor.symm
  · have asked : r'.profile = r.profile := by rw [rescores]
    have profile' := answers'.profile
    rw [asked] at profile'
    obtain ⟨known, used⟩ | ⟨unknown, default⟩ := answers.profile
    · simpa [known, used] using profile'
    · simpa [unknown, default] using profile'

theorem Answers.rescored_of_passed (answers : c.Answers r order rules o)
    (answers' : c.Answers r' order rules o') (rescores : Rescores r r')
    (free : ∀ id ∈ order, ¬c.Blocks r id)
    (agree : ∀ id, c.Matters r order o id → SameScore (r.score id) (r'.score id)) :
  o' = o.rescored r'
  := by
  obtain ⟨floor, version, profile⟩ := answers.frame answers' rescores
  obtain ⟨passed, fired, cites, wanted, otherwise, expires⟩ := answers.passed free
  have agrees : c.Agree r r' order :=
    fun id mem x counts => agree id (matters_of_passed passed mem counts)
  obtain ⟨passed', fired', cites', wanted', otherwise', expires'⟩ :=
    answers'.passed ((rescores.free_iff agrees).mpr free)
  have hits : o'.fired = o.fired.map (Hit.rescored r') := by
    rw [fired', fired, rescores.firing agrees]
  have needCitation : o'.needCitation = o.needCitation := by
    rw [Bool.eq_iff_iff, cites', cites, hits]
    apply rescores.cites_iff
    intro h mem
    obtain ⟨matters, score⟩ := answers.matters (.inl mem)
    rw [score]
    apply agree h.id matters
  have scans : o'.runOmissionScan = o.runOmissionScan := by
    have omission : r'.omission = r.omission := by rw [rescores]
    rw [omission] at wanted' otherwise'
    cases asked : r.omission with
    | none => rw [otherwise (.inl asked), otherwise' (.inl asked)]
    | some want =>
      cases allowed : c.omissionOverridesAllowed with
      | false => rw [otherwise (.inr allowed), otherwise' (.inr allowed)]
      | true => rw [wanted want asked allowed, wanted' want asked allowed]
  have expired : o'.contextExpired = o.contextExpired := by
    have age : r'.age = r.age := by rw [rescores]
    rw [Bool.eq_iff_iff, expires', expires, Expires, Expires, age]
  have blockedBy : o'.blockedBy = o.blockedBy.map (Hit.rescored r') := by
    rw [passed', passed]
    rfl
  exact Outcome.ext floor hits blockedBy needCitation scans expired version profile

theorem Answers.rescored_of_blocked (answers : c.Answers r order rules o)
    (answers' : c.Answers r' order rules o') (rescores : Rescores r r')
    {before after : List Text} (split : order = before ++ id :: after)
    (free : ∀ i ∈ before, ¬c.Blocks r i) (blocks : c.Blocks r id)
    (agree : ∀ id, c.Matters r order o id → SameScore (r.score id) (r'.score id)) :
  o' = o.rescored r'
  := by
  obtain ⟨floor, version, profile⟩ := answers.frame answers' rescores
  obtain ⟨blocked, fired, cites, scans, expired⟩ :=
    answers.blocked before id after split free blocks
  have agrees : c.Agree r r' (before ++ [id]) :=
    fun i mem x counts => agree i (matters_of_blocked blocked split mem counts)
  have agreesBefore : c.Agree r r' before := fun i mem => agrees i (by simp [mem])
  obtain ⟨blocked', fired', cites', scans', expired'⟩ :=
    answers'.blocked before id after split ((rescores.free_iff agreesBefore).mpr free)
      ((rescores.blocks_iff agrees (by simp)).mpr blocks)
  have hits : o'.fired = o.fired.map (Hit.rescored r') := by
    rw [fired', fired, rescores.firing agreesBefore]
  have blockedBy : o'.blockedBy = o.blockedBy.map (Hit.rescored r') := by
    rw [blocked', blocked]
    rfl
  exact Outcome.ext floor hits blockedBy (cites'.trans cites.symm) (scans'.trans scans.symm)
    (expired'.trans expired.symm) version profile

/-- When the reflexes that matter agree, the outcomes differ at most in how their scores are
written. -/
theorem Answers.rescored (answers : c.Answers r order rules o)
    (answers' : c.Answers r' order rules o') (rescores : Rescores r r')
    (agree : ∀ id, c.Matters r order o id → SameScore (r.score id) (r'.score id)) :
  o' = o.rescored r'
  := by
  obtain free | ⟨before, id, after, split, free, blocks⟩ := free_or_first c r order
  · apply answers.rescored_of_passed answers' rescores free agree
  · apply answers.rescored_of_blocked answers' rescores split free blocks agree

/-- An outcome with scores that agree is like the outcome itself. -/
theorem Answers.alike_rescored (answers : c.Answers r order rules o)
    (agree : ∀ id, c.Matters r order o id → SameScore (r.score id) (r'.score id)) :
  o.Alike (o.rescored r')
  := by
  have alike {h : Hit} (hit : h ∈ o.fired ∨ o.blockedBy = some h) :
      h.Alike (h.rescored r') := by
    obtain ⟨matters, score⟩ := answers.matters hit
    use rfl
    rw [score]
    apply agree h.id matters
  exact {
    minConfidence := rfl
    fired := by
      simp only [Outcome.rescored, List.forall₂_map_right_iff, List.forall₂_same]
      intro h mem
      apply alike (.inl mem)
    blockedBy := by
      cases blocked : o.blockedBy with
      | none => simp [Outcome.rescored, blocked]
      | some h => simpa [Outcome.rescored, blocked] using Option.Rel.some (alike (.inr blocked))
    needCitation := rfl
    runOmissionScan := rfl
    contextExpired := rfl
    codexVersion := rfl
    profile := rfl }

/-- An outcome with equal scores is the outcome itself. -/
theorem Answers.rescored_eq (answers : c.Answers r order rules o)
    (equal : ∀ id, c.Matters r order o id → r'.score id = r.score id) :
  o.rescored r' = o
  := by
  have unchanged {h : Hit} (hit : h ∈ o.fired ∨ o.blockedBy = some h) : h.rescored r' = h := by
    obtain ⟨matters, score⟩ := answers.matters hit
    rw [Hit.rescored, equal h.id matters, ← score]
  have fired : o.fired.map (Hit.rescored r') = o.fired := by
    have same := List.map_congr_left fun h mem => unchanged (h := h) (.inl mem)
    apply same.trans (List.map_id _)
  have blockedBy : o.blockedBy.map (Hit.rescored r') = o.blockedBy := by
    cases blocked : o.blockedBy with
    | none => rfl
    | some h => rw [Option.map_some, unchanged (.inr blocked)]
  rw [Outcome.rescored, fired, blockedBy]

/-! ### Scores in another order -/

/-- Neither the order of scores nor scores of zero make a difference to the score of a reflex. -/
theorem score_of_perm {zeros : Entries Text Binary64} (zero : ∀ e ∈ zeros, e.2 = 0)
    (perm : r'.scores.Perm (r.scores ++ zeros)) (nodup : (Entries.keys r'.scores).Nodup)
    (id : Text) :
  r'.score id = r.score id
  := by
  have nodup' : (Entries.keys (r.scores ++ zeros)).Nodup := (perm.map Prod.fst).nodup nodup
  have same : Entries.get? r'.scores id = Entries.get? (r.scores ++ zeros) id := by
    ext x
    rw [Entries.get?_eq_some_iff nodup, Entries.get?_eq_some_iff nodup']
    apply perm.mem_iff
  rw [Request.score, Request.score, Entries.getD, Entries.getD, same, Entries.get?_append]
  cases Entries.get? r.scores id with
  | some x => rfl
  | none =>
    cases given : Entries.get? zeros id with
    | none => rfl
    | some x =>
      obtain ⟨id', -, mem⟩ := Entries.mem_of_get? given
      apply zero _ mem

/-- Requests in which every reflex that matters scores the same are answered alike, and the same is
told to every sink.  It makes no difference what the other reflexes score, in which order the scores
come, and whether a score of zero is given or left out. -/
theorem evaluate_rescored {v : Value} {d d' : Draft} (loaded : ofValue v = .ok c)
    (valid : d.validate = .ok r) (valid' : d'.validate = .ok r') (rescores : Rescores r r') :
  ∃ p o o', c.Resolves r p ∧ c.evaluate d = .ok o ∧ c.evaluate d' = .ok o'
    ∧ ((∀ id, c.Matters r p.order o id → SameScore (r.score id) (r'.score id)) →
      o.Alike o' ∧ ∀ now, Option.Rel Event.Alike (c.sent? o now) (c.sent? o' now))
    ∧ ((∀ id, c.Matters r p.order o id → r'.score id = r.score id) → c.SameConduct d d')
    ∧ (∀ zeros : Entries Text Binary64, (∀ e ∈ zeros, e.2 = 0) →
      r'.scores.Perm (r.scores ++ zeros) → (Entries.keys r'.scores).Nodup →
        c.SameConduct d d')
  := by
  obtain ⟨p, rules, o, resolves, -, tier, answer, answers⟩ := evaluate_of_loaded loaded valid
  obtain ⟨p', rules', o', resolves', -, tier', answer', answers'⟩ :=
    evaluate_of_loaded loaded valid'
  have same : p' = p := by
    have profile : r'.profile = r.profile := by rw [rescores]
    rw [Resolves, profile] at resolves'
    apply Resolves.unique resolves' resolves
  have sameRules : rules' = rules := by
    have atTier : r'.tier = r.tier := by rw [rescores]
    rw [atTier, tier, Option.some.injEq] at tier'
    apply tier'.symm
  rw [same, sameRules] at answers'
  have conduct (equal : ∀ id, c.Matters r p.order o id → r'.score id = r.score id) :
      c.SameConduct d d' := by
    have agree (id : Text) (matters : c.Matters r p.order o id) :
        SameScore (r.score id) (r'.score id) := by
      have number := Binary64.isNan_of_isUnit (Request.isUnit_score valid id)
      rw [equal id matters]
      exact ⟨Binary64.le_refl number, Binary64.le_refl number⟩
    have sameOutcome : o' = o :=
      (answers.rescored answers' rescores agree).trans (answers.rescored_eq equal)
    intro σ sink now state
    rw [evaluateWith, evaluateWith, answer, answer', sameOutcome]
  refine ⟨p, o, o', resolves, answer, answer', ?_, conduct, ?_⟩
  · intro agree
    have alike : o.Alike o' := by
      rw [answers.rescored answers' rescores agree]
      apply answers.alike_rescored agree
    exact ⟨alike, c.alike_sent? alike⟩
  · intro zeros zero perm nodup
    apply conduct
    intro id _
    apply score_of_perm zero perm nodup

/-- Scores for the small document among which only those of lowScores matter. -/
def crowdedScores : Entries Text Binary64 := [("other", 0.4), ("tone", 0), ("claim", 0.9)]

set_option maxRecDepth 4000 in
theorem validate_crowdedScores :
  (scored crowdedScores).draft.validate = .ok (scored crowdedScores)
  := by rfl

theorem score_crowdedScores {id : Text} (named : id ≠ "other") :
  (scored crowdedScores).score id = (scored lowScores).score id
  := by
  by_cases tone : id = "tone"
  · subst tone
    decide +kernel
  · by_cases claim : id = "claim"
    · subst claim
      decide +kernel
    · simp [Request.score, scored, crowdedScores, lowScores, Entries.getD, Entries.get?,
        Ne.symm named, Ne.symm tone, Ne.symm claim]

set_option maxRecDepth 4000 in
theorem evaluate_rescored_crowdedScores :
  ∃ c, ofValue smallDocument = .ok c
    ∧ (scored lowScores).draft.validate = .ok (scored lowScores)
    ∧ (scored crowdedScores).draft.validate = .ok (scored crowdedScores)
    ∧ Rescores (scored lowScores) (scored crowdedScores)
    ∧ ∃ p o o', c.Resolves (scored lowScores) p
      ∧ c.evaluate (scored lowScores).draft = .ok o
      ∧ c.evaluate (scored crowdedScores).draft = .ok o'
      ∧ (∀ id, c.Matters (scored lowScores) p.order o id →
        (scored crowdedScores).score id = (scored lowScores).score id)
      ∧ c.SameConduct (scored lowScores).draft (scored crowdedScores).draft
  := by
  have computed : passes (fun c => (c.reflexNamed? "other").isNone) (ofValue smallDocument)
      = true := by decide +kernel
  obtain ⟨c, loaded, unknown⟩ := exists_of_passes computed
  rw [Option.isNone_iff_eq_none] at unknown
  have rescores : Rescores (scored lowScores) (scored crowdedScores) := rfl
  obtain ⟨p, o, o', resolves, answer, answer', -, conduct, -⟩ :=
    evaluate_rescored loaded validate_lowScores validate_crowdedScores rescores
  have equal (id : Text) (matters : c.Matters (scored lowScores) p.order o id) :
      (scored crowdedScores).score id = (scored lowScores).score id := by
    apply score_crowdedScores
    rintro rfl
    obtain ⟨⟨x, known, -⟩, -⟩ := matters
    rw [unknown] at known
    cases known
  exact ⟨c, loaded, validate_lowScores, validate_crowdedScores, rescores, p, o, o', resolves,
    answer, answer', equal, conduct equal⟩

end Codex

end ReflexPolicy
