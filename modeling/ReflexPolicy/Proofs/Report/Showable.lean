import ReflexPolicy.Proofs.Detector.Isolation
import ReflexPolicy.Proofs.Report.Shown

/-!
# Findings that can be shown

The findings of an analysis may hold anything, and an analysis leaves out of the scores what is not
well-formed.  A report lists all of them: it fails on a score that is no number, on anything else of
a finding that cannot be written, and on findings that have no order.  Findings that count, with a
label and a rationale that can be shown, are always reported.
-/

namespace ReflexPolicy

/-! ### What can be shown of a finding -/

/-- The value is a number, as far as a report is concerned: one that the format reaches. -/
def Value.IsFigure (v : Value) : Prop :=
  ∃ n x, v.asNumber? = some n ∧ n.toBinary64? = some x

/-- The value has a beginning that can be shown: a text, or the first items of a list. -/
def Value.Begins (v : Value) : Prop :=
  (∃ t, v = .text t) ∨ ∃ items, v = .list items ∧ ∀ w ∈ items.take 100, w.isWritable = true

namespace Finding

/-- The label and the rationale can be shown, unless they count as false. -/
structure IsDescribed (f : Finding) : Prop where
  label : f.label.truthy = true → f.label.isWritable = true
  rationale : f.rationale.truthy = true → f.rationale.Begins

/-- Every part of the finding that a report shows can be shown. -/
structure IsShowable (f : Finding) : Prop extends f.IsDescribed where
  id : f.reflexId.isWritable = true
  score : f.score.IsFigure

/-- A report cannot tell which of the findings comes first: they have the same score, and ids that
are not the same and have no order. -/
structure Clashes (f g : Finding) : Prop where
  score : ∃ n m, f.score.asNumber? = some n ∧ g.score.asNumber? = some m
    ∧ n.neg.equals m.neg = true
  id : f.reflexId.equals g.reflexId = false
  unordered : ∃ cause, f.reflexId.less g.reflexId = .error cause

end Finding

namespace Report

variable {v : Value} {f g : Finding} {findings : List Finding}

theorem exists_twoPlaces_iff :
  (∃ t, twoPlaces v = .ok t) ↔ v.IsFigure
  := by
  rw [twoPlaces.eq_def, Value.IsFigure]
  cases v.asNumber? with
  | none => cases v with
    | scalar s => cases s <;> simp
    | list items => simp
    | map es => simp
  | some n => cases reached : n.toBinary64? with
    | none => simp [reached]
    | some x => simp [reached]

theorem exists_shown_iff :
  (∃ t, shown v = .ok t) ↔ v.isWritable = true
  := by
  rw [shown]
  cases v.isWritable with
  | true => simp
  | false => simp

theorem exists_labelText_iff :
  (∃ t, labelText v = .ok t) ↔ (v.truthy = true → v.isWritable = true)
  := by
  rw [labelText]
  cases v.truthy with
  | true => simpa using exists_shown_iff
  | false => simp

theorem exists_beginning_iff :
  (∃ t, beginning 100 v = .ok t) ↔ v.Begins
  := by
  cases v with
  | scalar s => cases s <;> simp [beginning, Value.Begins]
  | list items => simp [beginning, Value.Begins, exists_shown_iff, Value.isWritable_list]
  | map es => simp [beginning, Value.Begins]

theorem exists_rationaleLines_iff :
  (∃ lines, rationaleLines v = .ok lines) ↔ (v.truthy = true → v.Begins)
  := by
  rw [rationaleLines]
  cases v.truthy with
  | true =>
    rw [if_pos rfl, ← exists_beginning_iff]
    constructor
    · rintro ⟨lines, shown⟩ -
      obtain ⟨t, begins, -⟩ := map_eq_ok.mp shown
      exact ⟨t, begins⟩
    · intro begins
      obtain ⟨t, begins⟩ := begins rfl
      exact ⟨_, map_eq_ok.mpr ⟨t, begins, rfl⟩⟩
  | false => simp

/-- A finding has its lines in a report if every part of it can be shown. -/
theorem exists_findingLines_iff :
  (∃ lines, findingLines f = .ok lines) ↔ f.IsShowable
  := by
  rw [findingLines, exists_bind_iff]
  constructor
  · rintro ⟨id, shown, rest⟩
    obtain ⟨score, figure, rest⟩ := exists_bind_iff.mp rest
    obtain ⟨label, labelled, rest⟩ := exists_bind_iff.mp rest
    obtain ⟨rationale, explained, -⟩ := exists_bind_iff.mp rest
    exact {
      id := exists_shown_iff.mp ⟨id, shown⟩
      score := exists_twoPlaces_iff.mp ⟨score, figure⟩
      label := exists_labelText_iff.mp ⟨label, labelled⟩
      rationale := exists_rationaleLines_iff.mp ⟨rationale, explained⟩ }
  · intro showable
    obtain ⟨id, shown⟩ := exists_shown_iff.mpr showable.id
    obtain ⟨score, figure⟩ := exists_twoPlaces_iff.mpr showable.score
    obtain ⟨label, labelled⟩ := exists_labelText_iff.mpr showable.label
    obtain ⟨rationale, explained⟩ := exists_rationaleLines_iff.mpr showable.rationale
    refine ⟨id, shown, ?_⟩
    rw [figure, labelled, explained]
    exact ⟨_, rfl⟩

theorem exists_linesOfFindings_iff :
  (∃ lines, linesOfFindings findings = .ok lines) ↔ ∀ f ∈ findings, f.IsShowable
  := by
  induction findings with
  | nil => simp [linesOfFindings]
  | cons f rest ih =>
    rw [List.forall_mem_cons, ← ih, ← exists_findingLines_iff, linesOfFindings, exists_bind_iff]
    constructor
    · rintro ⟨first, shown, others⟩
      obtain ⟨lines, shown', -⟩ := exists_bind_iff.mp others
      exact ⟨⟨first, shown⟩, lines, shown'⟩
    · rintro ⟨⟨first, shown⟩, lines, shown'⟩
      exact ⟨first, shown, exists_bind_iff.mpr ⟨lines, shown', _, rfl⟩⟩

/-! ### The order of the findings -/

/-- A finding with the key that it is sorted by, for a number as its score. -/
def sortKey (f : Finding) (n : Number) : Value × Finding := (.list [.number n.neg, f.reflexId], f)

theorem keyed_cons {n : Number} (figure : f.score.asNumber? = some n) (rest : List Finding) :
  keyed (f :: rest) = (keyed rest).map fun keys => sortKey f n :: keys
  := by
  rw [keyed, negated, figure]
  cases keyed rest <;> rfl

/-- Findings have keys only if their scores are numbers. -/
theorem figures_of_keyed {keys : List (Value × Finding)} (found : keyed findings = .ok keys) :
  ∀ f ∈ findings, ∃ n, f.score.asNumber? = some n
  := by
  induction findings generalizing keys with
  | nil => simp
  | cons f rest ih =>
    cases figure : f.score.asNumber? with
    | none =>
      rw [keyed, negated, figure] at found
      cases found
    | some n =>
      rw [keyed_cons figure] at found
      obtain ⟨others, found, -⟩ := map_eq_ok.mp found
      exact List.forall_mem_cons.mpr ⟨⟨n, figure⟩, ih found⟩

/-- Findings with numbers for scores have keys, one after another. -/
theorem exists_keyed (figures : ∀ f ∈ findings, ∃ n, f.score.asNumber? = some n) :
  ∃ keys, keyed findings = .ok keys ∧ keys.map Prod.snd = findings
    ∧ ∀ k ∈ keys, ∃ f ∈ findings, ∃ n, f.score.asNumber? = some n ∧ k = sortKey f n
  := by
  induction findings with
  | nil => exact ⟨[], rfl, rfl, by simp⟩
  | cons f rest ih =>
    obtain ⟨⟨n, figure⟩, figures⟩ := List.forall_mem_cons.mp figures
    obtain ⟨keys, found, same, all⟩ := ih figures
    refine ⟨sortKey f n :: keys, ?_, ?_, ?_⟩
    · rw [keyed_cons figure, found]
      rfl
    · rw [List.map_cons, same]
      rfl
    · rw [List.forall_mem_cons]
      refine ⟨⟨f, List.mem_cons_self, n, figure, rfl⟩, ?_⟩
      intro k mem
      obtain ⟨g, listed, key⟩ := all k mem
      exact ⟨g, List.mem_cons_of_mem _ listed, key⟩

/-- Keys are compared by their ids where they have the same score. -/
theorem less_sortKey {n m : Number} (same : n.neg.equals m.neg = true)
    (apart : f.reflexId.equals g.reflexId = false) :
  (sortKey f n).1.less (sortKey g m).1 = f.reflexId.less g.reflexId
  := by
  have scores : (Value.number n.neg).equals (.number m.neg) = true := same
  simp only [sortKey, Value.less, Value.compare, Value.compareItems, scores, apart, if_true,
    Bool.false_eq_true, if_false]

/-- Keys of findings that do not clash can be compared. -/
theorem yields_less {n m : Number} (figure : f.score.asNumber? = some n)
    (figure' : g.score.asNumber? = some m) (free : ¬f.Clashes g) :
  Yields (fun _ => True) ((sortKey f n).1.less (sortKey g m).1)
  := by
  cases same : n.neg.equals m.neg with
  | false =>
    have scores : (Value.number n.neg).equals (.number m.neg) = false := same
    simp only [sortKey, Value.less, Value.compare, Value.compareItems, scores, Bool.false_eq_true,
      if_false]
    exact yields_ok trivial
  | true =>
    cases ids : f.reflexId.equals g.reflexId with
    | true =>
      have scores : (Value.number n.neg).equals (.number m.neg) = true := same
      simp only [sortKey, Value.less, Value.compare, Value.compareItems, scores, ids, if_true]
      exact yields_ok trivial
    | false =>
      rw [less_sortKey same ids]
      cases compared : f.reflexId.less g.reflexId with
      | ok before => exact yields_ok trivial
      | error cause => exact absurd ⟨⟨n, m, figure, figure', same⟩, ids, cause, compared⟩ free

/-- Findings that do not clash are listed in some order, none of them lost. -/
theorem exists_sorted (figures : ∀ f ∈ findings, ∃ n, f.score.asNumber? = some n)
    (free : ∀ f ∈ findings, ∀ g ∈ findings, ¬f.Clashes g) :
  ∃ found, sorted findings = .ok found ∧ found.Perm findings
  := by
  have compares : Sorting.Compares (fun a b : Value × Finding => a.1.less b.1)
      (fun k => ∃ f ∈ findings, ∃ n, f.score.asNumber? = some n ∧ k = sortKey f n) := by
    rintro _ _ ⟨f, mem, n, figure, rfl⟩ ⟨g, mem', m, figure', rfl⟩
    exact yields_less figure figure' (free f mem g mem')
  obtain ⟨keys, hasKeys, same, all⟩ := exists_keyed figures
  obtain ⟨found, sorted, perm⟩ := Sorting.yields_sort compares all
  refine ⟨found.map Prod.snd, ?_, ?_⟩
  · rw [Report.sorted, hasKeys]
    simp only [bind, Except.bind, sorted, pure, Except.pure]
  · rw [← same]
    exact perm.map Prod.snd

theorem figures_of_sorted {found : List Finding} (sorted : sorted findings = .ok found) :
  ∀ f ∈ findings, ∃ n, f.score.asNumber? = some n
  := by
  obtain ⟨keys, hasKeys, -⟩ := bind_eq_ok.mp sorted
  exact figures_of_keyed hasKeys

/-- A sort fails if its first comparison does. -/
theorem sort_error_of_first {α ε : Type} {less : Sorting.Less α ε} {a b : α} {rest : List α} {e : ε}
    (failed : less b a = .error e) :
  Sorting.sort less (a :: b :: rest) = .error e
  := by
  have run (least : Nat) : Sorting.firstRun less least (a :: b :: rest) = .error e := by
    rw [Sorting.firstRun, Sorting.firstStretch, failed]
    rfl
  simp only [Sorting.sort, List.length_cons, Sorting.pushAll, run, bind, Except.bind]

/-- Findings are not listed if the first two of them clash. -/
theorem not_sorted_of_clash (clash : g.Clashes f) (rest found : List Finding) :
  sorted (f :: g :: rest) ≠ .ok found
  := by
  intro sorted
  obtain ⟨⟨n, m, figureG, figureF, same⟩, apart, cause, unordered⟩ := clash
  obtain ⟨keys, hasKeys, sorted⟩ := bind_eq_ok.mp sorted
  rw [keyed_cons figureF, keyed_cons figureG] at hasKeys
  obtain ⟨tail, tailKeys, rfl⟩ := map_eq_ok.mp hasKeys
  obtain ⟨keys, -, rfl⟩ := map_eq_ok.mp tailKeys
  have failed : Sorting.sort (fun a b : Value × Finding => a.1.less b.1)
      (sortKey f m :: sortKey g n :: keys) = .error cause :=
    sort_error_of_first ((less_sortKey same apart).trans unordered)
  rw [failed] at sorted
  cases sorted

/-! ### Whole reports -/

/-- The findings of a report have their lines if they can be listed and shown. -/
theorem exists_findingsLines_iff :
  (∃ lines, findingsLines findings = .ok lines)
    ↔ findings = [] ∨ ∃ found, sorted findings = .ok found ∧ ∀ f ∈ found, f.IsShowable
  := by
  cases findings with
  | nil => simp [findingsLines, pure, Except.pure]
  | cons f rest =>
    rw [findingsLines, List.isEmpty_cons, if_neg Bool.false_ne_true, exists_bind_iff]
    simp only [reduceCtorEq, false_or]
    constructor
    · rintro ⟨found, sorted, shown⟩
      obtain ⟨lines, shown, -⟩ := exists_bind_iff.mp shown
      exact ⟨found, sorted, exists_linesOfFindings_iff.mp ⟨lines, shown⟩⟩
    · rintro ⟨found, sorted, showable⟩
      obtain ⟨lines, shown⟩ := exists_linesOfFindings_iff.mpr showable
      exact ⟨found, sorted, exists_bind_iff.mpr ⟨lines, shown, _, rfl⟩⟩

variable {c : Codex} {o : Outcome}

/-- How a report lists the findings of an analysis. -/
structure Lists (c : Codex) (o : Outcome) (findings : List Finding) : Prop where
  /-- Findings that do not clash are reported exactly if all of them can be shown. -/
  shown : (∀ f ∈ findings, ∀ g ∈ findings, ¬f.Clashes g) →
    ((∃ t, text c o.sheet findings = .ok t) ↔ ∀ f ∈ findings, f.IsShowable)
  numbers : (∃ t, text c o.sheet findings = .ok t) →
    ∀ f ∈ findings, ∃ n, f.score.asNumber? = some n
  clashing : ∀ f g rest, findings = f :: g :: rest → g.Clashes f →
    ∀ t, text c o.sheet findings ≠ .ok t
  /-- Findings that count are reported, if their labels and rationales can be shown. -/
  counted : (∀ f ∈ findings, (∃ id n, f.reflexId = .text id ∧ f.score = .number n) ∧ f.IsDescribed) →
    ∃ t, text c o.sheet findings = .ok t

theorem numbers_of_text (reported : ∃ t, text c o.sheet findings = .ok t) :
  ∀ f ∈ findings, ∃ n, f.score.asNumber? = some n
  := by
  obtain rfl | ⟨found, sorted, -⟩ := exists_findingsLines_iff.mp (exists_text_iff.mp reported)
  · simp
  · exact figures_of_sorted sorted

/-- Findings that do not clash are reported exactly if all of them can be shown. -/
theorem exists_text_iff_showable (free : ∀ f ∈ findings, ∀ g ∈ findings, ¬f.Clashes g) :
  (∃ t, text c o.sheet findings = .ok t) ↔ ∀ f ∈ findings, f.IsShowable
  := by
  constructor
  · intro reported
    obtain ⟨found, sorted, perm⟩ := exists_sorted (numbers_of_text reported) free
    obtain rfl | ⟨found', sorted', showable⟩ :=
      exists_findingsLines_iff.mp (exists_text_iff.mp reported)
    · simp
    · rw [sorted] at sorted'
      cases sorted'
      exact fun f mem => showable f (perm.mem_iff.mpr mem)
  · intro showable
    have figures : ∀ f ∈ findings, ∃ n, f.score.asNumber? = some n := by
      intro f mem
      obtain ⟨n, x, figure, -⟩ := (showable f mem).score
      exact ⟨n, figure⟩
    obtain ⟨found, sorted, perm⟩ := exists_sorted figures free
    rw [exists_text_iff, exists_findingsLines_iff]
    exact .inr ⟨found, sorted, fun f mem => showable f (perm.mem_iff.mp mem)⟩

/-- Findings whose ids are texts do not clash. -/
theorem not_clashes_of_texts {id id' : Text} (named : f.reflexId = .text id)
    (named' : g.reflexId = .text id') :
  ¬f.Clashes g
  := by
  intro clash
  obtain ⟨cause, unordered⟩ := clash.unordered
  rw [named, named'] at unordered
  cases unordered

end Report

/-- The scores of an analysis that comes to an outcome are of the format, for the findings that speak
of a reflex. -/
theorem Codex.inRange_of_analyze {σ : Type} {c : Codex} {text : String} {ds : List Detector}
    {d : Draft} {sink : Option (Sink σ)} {now : Value} {state : σ} {o : Outcome}
    {findings : List Finding}
    (analyzed : (c.analyze text ds d sink now state).1 = .ok (o, findings)) :
  ∀ f ∈ findings, f.entry? ≠ .error .tooLarge
  := by
  obtain rfl := findings_of_analyze analyzed
  obtain ⟨-, -, -, inside⟩ | ⟨failed, -⟩ := collectScores_cases (runDetectors text ds)
  · exact inside
  · rw [analyze_of_error sink now state failed] at analyzed
    cases analyzed

theorem Finding.isFigure_of_entry? {f : Finding} {id : Text} {n : Number}
    (named : f.reflexId = .text id) (scored : f.score = .number n)
    (inside : f.entry? ≠ .error .tooLarge) :
  f.score.IsFigure
  := by
  cases reached : n.toBinary64? with
  | some x => exact ⟨n, x, by rw [scored]; rfl, reached⟩
  | none =>
    refine absurd ?_ inside
    simp [Finding.entry?, Finding.scoreNumber, named, scored, Value.text?, Value.number?, reached,
      Except.map]

/-- A report lists the findings of an analysis as long as all of them can be shown and have an order.
Findings that count, described in a way that can be shown, are reported; what an analysis leaves out
of the scores may break its report. -/
theorem Codex.lists_of_analyze {σ : Type} {c : Codex} {text : String} {ds : List Detector}
    {d : Draft} {sink : Option (Sink σ)} {now : Value} {state : σ} {o : Outcome}
    {findings : List Finding}
    (analyzed : (c.analyze text ds d sink now state).1 = .ok (o, findings)) :
  Report.Lists c o findings
  where
    shown := Report.exists_text_iff_showable
    numbers := Report.numbers_of_text
    clashing := by
      rintro f g rest rfl clash t reported
      obtain ⟨lines, found⟩ := Report.exists_text_iff.mp ⟨t, reported⟩
      obtain empty | ⟨found, sorted, -⟩ := Report.exists_findingsLines_iff.mp ⟨lines, found⟩
      · cases empty
      · exact Report.not_sorted_of_clash clash rest found sorted
    counted := by
      intro counted
      have free : ∀ f ∈ findings, ∀ g ∈ findings, ¬f.Clashes g := by
        intro f mem g mem'
        obtain ⟨⟨id, -, named, -⟩, -⟩ := counted f mem
        obtain ⟨⟨id', -, named', -⟩, -⟩ := counted g mem'
        exact Report.not_clashes_of_texts named named'
      rw [Report.exists_text_iff_showable free]
      intro f mem
      obtain ⟨⟨id, n, named, scored⟩, described⟩ := counted f mem
      exact {
        toIsDescribed := described
        id := by rw [named]; rfl
        score := Finding.isFigure_of_entry? named scored (inRange_of_analyze analyzed f mem) }

/-! ### An analysis that cannot be reported -/

theorem Codex.lists_noisyDetectors :
  ∃ c o findings, ofValue smallDocument = .ok c
    ∧ (c.analyze "passage" noisyDetectors smallDraft (none : Option (Sink Unit)) .null ()).1
      = .ok (o, findings)
    ∧ Report.Lists c o findings
  := by
  have computed : passes (fun c =>
      (c.analyze "passage" noisyDetectors smallDraft (none : Option (Sink Unit)) .null ()).1.isOk)
      (ofValue smallDocument) = true := by decide +kernel
  obtain ⟨c, loaded, isOk⟩ := exists_of_passes computed
  obtain ⟨⟨o, findings⟩, analyzed⟩ := exists_of_isOk isOk
  exact ⟨c, o, findings, loaded, analyzed, lists_of_analyze analyzed⟩

/-- An analysis that leaves a malformed finding out of the scores comes to an outcome, but there is
no report on it. -/
theorem Codex.not_reported_noisyDetectors :
  ∃ c o findings, ofValue smallDocument = .ok c
    ∧ (c.analyze "passage" noisyDetectors smallDraft (none : Option (Sink Unit)) .null ()).1
      = .ok (o, findings)
    ∧ ∀ t, Report.text c o.sheet findings ≠ .ok t
  := by
  have computed : passes (fun c => passes (fun r => !(Report.text c r.1.sheet r.2).isOk)
      (c.analyze "passage" noisyDetectors smallDraft (none : Option (Sink Unit)) .null ()).1)
      (ofValue smallDocument) = true := by decide +kernel
  obtain ⟨c, loaded, computed⟩ := exists_of_passes computed
  obtain ⟨⟨o, findings⟩, analyzed, fails⟩ := exists_of_passes computed
  refine ⟨c, o, findings, loaded, analyzed, ?_⟩
  intro t reported
  rw [reported] at fails
  cases fails

end ReflexPolicy
