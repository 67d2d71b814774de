import Mathlib.Logic.Relation
import ReflexPolicy.Proofs.Detector.Evidence
import ReflexPolicy.Proofs.Request.Normal

/-!
# Isolation of detectors

The outcome of an analysis rests on what its detectors say about the text.  It does not change when
detectors that fail or give nothing are left out, when the detectors are listed in another order or
one of them again, or when a detector leaves out a malformed finding.  No finding with a score of
the format makes an analysis fail: it fails where an analysis without detectors does.
-/

namespace ReflexPolicy

/-! ### Changes of the detectors -/

/-- One change of the detectors of an analysis that leaves its evidence as it is. -/
inductive Rearranges (text : String) : List Detector → List Detector → Prop where
  /-- A detector that fails or gives nothing is left out. -/
  | silent {before after : List Detector} {d : Detector}
      (silent : ∀ findings, d text ≠ .ok (some findings)) :
    Rearranges text (before ++ d :: after) (before ++ after)
  /-- The detectors are listed in another order. -/
  | permuted {ds ds' : List Detector} (perm : ds.Perm ds') : Rearranges text ds ds'
  /-- A detector is listed once more. -/
  | repeated {ds : List Detector} {d : Detector} (mem : d ∈ ds) : Rearranges text ds (d :: ds)
  /-- A detector leaves out a malformed finding. -/
  | cleaned {before after : List Detector} {d d' : Detector} {fs fs' : List Finding} {f : Finding}
      (gives : d text = .ok (some (fs ++ f :: fs'))) (malformed : f.IsMalformed)
      (gives' : d' text = .ok (some (fs ++ fs'))) :
    Rearranges text (before ++ d :: after) (before ++ d' :: after)

variable {text : String} {ds ds' : List Detector}

theorem mem_runDetectors {f : Finding} :
  f ∈ runDetectors text ds ↔ ∃ d ∈ ds, f ∈ contribution text d
  := List.mem_flatMap

theorem contribution_of_silent {d : Detector} (silent : ∀ findings, d text ≠ .ok (some findings)) :
  contribution text d = []
  := by
  rw [contribution]
  split
  · rename_i findings gives
    exact absurd gives (silent findings)
  · rfl

/-- A change of the detectors keeps every finding that says something. -/
theorem Rearranges.mem_iff (rearranges : Rearranges text ds ds') {f : Finding}
    (something : f.entry? ≠ .ok none) :
  f ∈ runDetectors text ds ↔ f ∈ runDetectors text ds'
  := by
  cases rearranges with
  | silent silent => simp [runDetectors, contribution_of_silent silent]
  | permuted perm =>
    rw [mem_runDetectors, mem_runDetectors]
    simp only [perm.mem_iff]
  | repeated mem =>
    rw [mem_runDetectors, mem_runDetectors]
    constructor
    · rintro ⟨d, mem, given⟩
      exact ⟨d, List.mem_cons_of_mem _ mem, given⟩
    · rintro ⟨d, mem', given⟩
      obtain rfl | mem' := List.mem_cons.mp mem'
      · exact ⟨d, mem, given⟩
      · exact ⟨d, mem', given⟩
  | cleaned gives malformed gives' =>
    rename_i malformedFinding
    have ne : f ≠ malformedFinding := by
      rintro rfl
      exact something (Finding.entry?_of_isMalformed malformed)
    simp [runDetectors, contribution, gives, gives', ne]

theorem sameEvidence_of_rearranged (same : Relation.EqvGen (Rearranges text) ds ds') :
  SameEvidence (runDetectors text ds) (runDetectors text ds')
  := by
  induction same with
  | rel ds ds' rearranges => exact sameEvidence_of_mem fun f => rearranges.mem_iff
  | refl ds => exact sameEvidence_equivalence.refl _
  | symm ds ds' _ same => exact sameEvidence_equivalence.symm same
  | trans ds ds' ds'' _ _ same same' => exact sameEvidence_equivalence.trans same same'

/-! ### Drafts of an analysis -/

/-- The draft of an analysis with the given scores. -/
def Draft.scored (d : Draft) (scores : Entries Text Binary64) : Draft :=
  { d with scores := scoresValue scores, age := d.age.orFresh }

variable {d : Draft} {scores scores' : Entries Text Binary64}

/-- Scores of the unit interval pass the checks unchanged. -/
theorem validate_scores (d : Draft) (units : ∀ e ∈ scores, e.2.isUnit = true) :
  Draft.validate { d with scores := scoresValue scores }
    = (Draft.validate { d with scores := scoresValue [] }).map fun r => { r with scores := scores }
  := by
  have checked := checkScores_scoresValue units
  simp only [Draft.validate, scoresValue, Value.entries?, bind, Except.bind, checked,
    List.map_nil, checkScores]
  split <;> try rfl
  split <;> try rfl
  split <;> try rfl
  split <;> try rfl
  split <;> try rfl
  split <;> try rfl
  split <;> rfl

/-- The only fault of a draft without scores is a rejection. -/
theorem rejected_of_unscored {e : Fault} (failed : (d.scored []).validate = .error e) :
  ∃ r, e = .rejected r
  := by
  obtain rejected | ⟨-, -, -, -, -, es, entries, before, id, n, after, split, -⟩ :=
    rejected_or_of_validate failed
  · exact rejected
  · cases entries
    simp at split

namespace Codex

variable {c : Codex}

/-- Scores of the same values lead to the same outcome. -/
theorem outcome_congr {r : Request} (same : ∀ id, Entries.get? scores id = Entries.get? scores' id) :
  c.outcome { r with scores := scores } = c.outcome { r with scores := scores' }
  := by
  have scored : Request.score { r with scores := scores }
      = Request.score { r with scores := scores' } := by
    funext id
    simp only [Request.score, Entries.getD, same]
  simp only [outcome, scored]

theorem evaluate_scores (d : Draft) (units : ∀ e ∈ scores, e.2.isUnit = true) :
  c.evaluate { d with scores := scoresValue scores }
    = Draft.validate { d with scores := scoresValue [] } >>= fun r =>
      c.outcome { r with scores := scores }
  := by
  rw [evaluate, validate_scores d units]
  cases Draft.validate { d with scores := scoresValue [] } <;> rfl

theorem evaluate_scored (units : ∀ e ∈ scores, e.2.isUnit = true) :
  c.evaluate (d.scored scores)
    = (d.scored []).validate >>= fun r => c.outcome { r with scores := scores }
  := evaluate_scores { d with age := d.age.orFresh } units

theorem evaluate_congr (units : ∀ e ∈ scores, e.2.isUnit = true)
    (units' : ∀ e ∈ scores', e.2.isUnit = true)
    (same : ∀ id, Entries.get? scores id = Entries.get? scores' id) :
  c.evaluate (d.scored scores) = c.evaluate (d.scored scores')
  := by
  rw [evaluate_scored units, evaluate_scored units']
  congr 1
  funext r
  exact outcome_congr same

variable {σ : Type} (sink : Option (Sink σ)) (now : Value) (state : σ)

/-- An analysis with a score beyond the format fails. -/
theorem analyze_of_error {e : Fault} (failed : collectScores (runDetectors text ds) = .error e) :
  c.analyze text ds d sink now state = (.error e, state)
  := by
  simp only [analyze, Draft.ofFindings, failed, bind, Except.bind]

/-- An analysis evaluates the scores that were collected. -/
theorem analyze_of_ok (collected : collectScores (runDetectors text ds) = .ok scores) :
  (c.analyze text ds d sink now state).map (Except.map Prod.fst) id
    = c.evaluateWith (d.scored scores) sink now state
  := by
  simp only [analyze, Draft.ofFindings, collected, bind, Except.bind, pure, Except.pure]
  rw [← Draft.scored]
  obtain ⟨answer, after⟩ := c.evaluateWith (d.scored scores) sink now state
  cases answer <;> rfl

/-- The findings of an analysis are those of its detectors. -/
theorem findings_of_analyze {sink : Option (Sink σ)} {now : Value} {state : σ} {o : Outcome}
    {findings : List Finding}
    (analyzed : (c.analyze text ds d sink now state).1 = .ok (o, findings)) :
  findings = runDetectors text ds
  := by
  simp only [analyze] at analyzed
  split at analyzed
  · cases analyzed
  · split at analyzed
    · cases analyzed
    · cases analyzed
      rfl

/-- Findings that say the same lead to the same outcome. -/
theorem analyze_congr {text' : String}
    (same : SameEvidence (runDetectors text ds) (runDetectors text' ds')) :
  (c.analyze text ds d sink now state).map (Except.map Prod.fst) id
    = (c.analyze text' ds' d sink now state).map (Except.map Prod.fst) id
  := by
  have beyond := same (.error .tooLarge) (by simp)
  obtain ⟨scores, collected, collects, inside⟩ | ⟨failed, found⟩ :=
    collectScores_cases (runDetectors text ds)
  · obtain ⟨scores', collected', collects', -⟩ | ⟨-, found'⟩ :=
      collectScores_cases (runDetectors text' ds')
    · rw [analyze_of_ok sink now state collected, analyze_of_ok sink now state collected',
        evaluateWith, evaluateWith,
        evaluate_congr collects.unit collects'.unit (collects.get?_eq collects' same)]
    · obtain ⟨f, mem, outside⟩ := beyond.mpr found'
      exact absurd outside (inside f mem)
  · obtain ⟨-, -, -, inside'⟩ | ⟨failed', -⟩ := collectScores_cases (runDetectors text' ds')
    · obtain ⟨f, mem, outside⟩ := beyond.mp found
      exact absurd outside (inside' f mem)
    · rw [analyze_of_error sink now state failed, analyze_of_error sink now state failed']

/-- A codex that was loaded fails to evaluate some scores of the unit interval only where the checks
of the other fields fail. -/
theorem evaluate_scores_error_iff {v : Value} (loaded : ofValue v = .ok c) (d : Draft)
    (units : ∀ e ∈ scores, e.2.isUnit = true) {e : Fault} :
  c.evaluate { d with scores := scoresValue scores } = .error e
    ↔ Draft.validate { d with scores := scoresValue [] } = .error e
  := by
  have checked := validate_scores d units
  rw [evaluate_scores d units, bind_eq_error]
  constructor
  · rintro (failed | ⟨r, valid, failed⟩)
    · exact failed
    · rw [valid] at checked
      obtain ⟨-, -, o, -, -, answer, -⟩ := outcome_of_loaded loaded checked
      rw [answer] at failed
      cases failed
  · exact .inl

theorem evaluate_error_iff {v : Value} (loaded : ofValue v = .ok c)
    (units : ∀ e ∈ scores, e.2.isUnit = true) {e : Fault} :
  c.evaluate (d.scored scores) = .error e ↔ (d.scored []).validate = .error e
  := evaluate_scores_error_iff loaded { d with age := d.age.orFresh } units

/-- An analysis whose findings have scores of the format fails where the checks of the other fields
do. -/
theorem analyze_error_iff {v : Value} (loaded : ofValue v = .ok c)
    (inRange : ∀ f ∈ runDetectors text ds, f.IsInRange) {e : Fault} :
  (c.analyze text ds d sink now state).1 = .error e ↔ (d.scored []).validate = .error e
  := by
  obtain ⟨scores, collected, collects, -⟩ | ⟨-, f, mem, outside⟩ :=
    collectScores_cases (runDetectors text ds)
  case inr => exact absurd (inRange f mem) (Finding.entry?_error outside).2
  have evaluated := congrArg Prod.fst (analyze_of_ok (c := c) (d := d) sink now state collected)
  rw [Prod.map_fst, evaluateWith_fst] at evaluated
  rw [← evaluate_error_iff loaded collects.unit, ← evaluated]
  cases (c.analyze text ds d sink now state).1 <;> simp [Except.map]

/-! ### Isolation -/

/-- Whatever is changed of the detectors without touching their evidence, an analysis has the same
outcome and tells the sink the same; and as long as the scores of the findings are numbers of the
format, it fails where an analysis without detectors does, for a rejected field. -/
theorem analyze_isolated {v : Value} (loaded : ofValue v = .ok c)
    (rearranged : Relation.EqvGen (Rearranges text) ds ds') :
  (c.analyze text ds d sink now state).map (Except.map Prod.fst) id
      = (c.analyze text ds' d sink now state).map (Except.map Prod.fst) id
    ∧ ((∀ f ∈ runDetectors text ds, f.IsInRange) →
      ∀ e, (c.analyze text ds d sink now state).1 = .error e ↔
        ∃ r, e = .rejected r ∧ (c.analyze text [] d sink now state).1 = .error e)
  := by
  constructor
  · apply analyze_congr sink now state (sameEvidence_of_rearranged rearranged)
  · intro inRange e
    rw [analyze_error_iff sink now state loaded inRange,
      analyze_error_iff sink now state loaded (by simp [runDetectors])]
    constructor
    · intro failed
      obtain ⟨r, rejected⟩ := rejected_of_unscored failed
      exact ⟨r, rejected, failed⟩
    · rintro ⟨-, -, failed⟩
      exact failed

end Codex

/-! ### An analysis with failing detectors -/

/-- A finding for a reflex of the small document. -/
def claimFinding : Finding :=
  { Finding.empty with reflexId := .text "claim", score := .float 0.95 }

/-- A detector that finds one reflex. -/
def quietDetector : Detector := fun _ => .ok (some [claimFinding])

/-- A detector that finds one reflex and gives a malformed finding too. -/
def noisyDetector : Detector := fun _ => .ok (some [claimFinding, Finding.empty])

/-- A noisy detector between one that fails and one that gives nothing. -/
def noisyDetectors : List Detector := [fun _ => .error "down", noisyDetector, fun _ => .ok none]

/-- A quiet detector, listed twice. -/
def quietDetectors : List Detector := [quietDetector, quietDetector]

theorem noisy_rearranged (text : String) :
  Relation.EqvGen (Rearranges text) noisyDetectors quietDetectors
  := by
  have failing : Rearranges text noisyDetectors [noisyDetector, fun _ => .ok none] :=
    @Rearranges.silent text [] _ _ (by simp)
  have mute : Rearranges text [noisyDetector, fun _ => .ok none] [noisyDetector] :=
    @Rearranges.silent text [noisyDetector] [] _ (by simp)
  have malformed : Finding.empty.IsMalformed := .inl (by simp [Finding.empty])
  have noisy : Rearranges text [noisyDetector] [quietDetector] :=
    @Rearranges.cleaned text [] [] _ _ [claimFinding] [] Finding.empty rfl malformed rfl
  have quiet : Rearranges text [quietDetector] quietDetectors := .repeated (by simp)
  exact .trans _ _ _ (.rel _ _ failing) (.trans _ _ _ (.rel _ _ mute)
    (.trans _ _ _ (.rel _ _ noisy) (.rel _ _ quiet)))

namespace Codex

theorem analyze_isolated_noisy :
  ∃ c, ofValue smallDocument = .ok c
    ∧ Relation.EqvGen (Rearranges "some text") noisyDetectors quietDetectors
    ∧ (∀ f ∈ runDetectors "some text" noisyDetectors, f.IsInRange)
    ∧ (c.analyze "some text" noisyDetectors smallDraft (some .collecting) .null []).map
        (Except.map Prod.fst) id
      = (c.analyze "some text" quietDetectors smallDraft (some .collecting) .null []).map
        (Except.map Prod.fst) id
    ∧ ∀ e, (c.analyze "some text" noisyDetectors smallDraft (some .collecting) .null []).1
        = .error e ↔
      ∃ r, e = .rejected r
        ∧ (c.analyze "some text" [] smallDraft (some .collecting) .null []).1 = .error e
  := by
  obtain ⟨c, loaded⟩ := exists_of_isOk isOk_smallDocument
  have rearranged := noisy_rearranged "some text"
  have inRange : ∀ f ∈ runDetectors "some text" noisyDetectors, f.IsInRange := by
    simp [runDetectors, contribution, noisyDetectors, noisyDetector, Finding.IsInRange, claimFinding,
      Finding.empty, Number.toBinary64?]
  obtain ⟨same, fails⟩ := analyze_isolated (some .collecting) .null [] loaded rearranged
  exact ⟨c, loaded, rearranged, inRange, same, fails inRange⟩

end Codex

end ReflexPolicy
