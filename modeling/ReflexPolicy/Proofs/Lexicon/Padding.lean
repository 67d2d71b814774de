import ReflexPolicy.Proofs.Detector.Collected
import ReflexPolicy.Proofs.Detector.Findings
import ReflexPolicy.Proofs.Evaluation.Answer
import ReflexPolicy.Proofs.Lexicon.Tables
import ReflexPolicy.Proofs.Lexicon.WholeWords
import ReflexPolicy.Proofs.Pattern.Enclosed

/-!
# Padding

A text that is put between two sentences keeps what the lexical detectors report on it: every cue
of a table, every marker of an omission, and no reflex scores lower.  Only the score of omissions
rests on what the sentences say, since it is lower where a source is mentioned.
-/

namespace ReflexPolicy

/-- The text between two others, each of them a sentence of its own. -/
def padded (before text after : String) : String := before ++ ". " ++ text ++ ". " ++ after

/-! ### Stretches in a padded text -/

section

open Pattern

variable {p : Pattern} {before text after : String}

theorem toList_padded (before text after : String) :
  (padded before text after).toList
    = (before.toList ++ ['.', ' ']) ++ (text.toList ++ '.' :: ' ' :: after.toList)
  := by simp [padded]

theorem isWordAt_blank (front : List Char) :
  Text.isWordAt (front ++ ['.', ' ']).getLast? = false
  := by
  rw [List.getLast?_append]
  show Text.isWord ' ' = false
  decide

theorem occursIn_padded (tests : p.Tests (fun _ => True) RejectsStop)
    (occurs : p.occursIn text.toList = true) :
  p.occursIn (padded before text after).toList = true
  := by
  rw [toList_padded]
  exact occursIn_enclosed tests (isWordAt_blank _) (.inr ⟨_, rfl⟩) occurs

/-- Words without a full stop reject it. -/
theorem tests_words_of_notMem {Q : (Char → Bool) → Prop} {s : String} (closed : '.' ∉ s.toList) :
  (words s).Tests RejectsStop Q
  := by
  rw [tests_words_iff]
  intro c mem
  have same : Text.fold '.' = '.' := by decide
  have other : '.' ≠ c := by
    rintro rfl
    exact closed mem
  simpa [RejectsStop, same] using other

/-- No cue of a table excludes what lies beyond a full stop. -/
theorem LexicalDetector.closed_tabled :
  ∀ e ∈ tabled, ∀ cue ∈ e.2.cues, cue.pattern.Tests (fun _ => True) RejectsStop
  := by
  have ahead : Lexicon.sourceAhead.Tests RejectsStop fun _ => True := by
    refine tests_sourceAhead (fun s mem => tests_words_of_notMem ?_) rfl
    revert s
    simp
  exact tests_tabled (fun _ => trivial) (fun _ => trivial) ahead

theorem LexicalDetector.reports_padded {d : LexicalDetector} {l : Lexicon} {cue : Cue}
    (mem : (d, l) ∈ tabled) (row : cue ∈ l.cues) (reports : d.Reports l cue text) :
  d.Reports l cue (padded before text after)
  := by
  obtain ⟨-, occurs⟩ := (reports_iff mem row).mp reports
  refine (reports_iff mem row).mpr ⟨by simp [padded], ?_⟩
  exact occursIn_padded (closed_tabled _ mem cue row) occurs

theorem OmissionMarker.standsIn_padded {m : OmissionMarker}
    (stands : m.standsIn text.toList = true) :
  m.standsIn (padded before text after).toList = true
  := by
  have lower_stop (cs : List Char) : Text.lower ('.' :: ' ' :: cs) = '.' :: ' ' :: Text.lower cs :=
    rfl
  have tests : (delimited (literally m.phrase)).Tests (fun _ => True) RejectsStop :=
    tests_delimited_iff.mpr (tests_literally_iff.mpr fun _ _ => trivial)
  rw [standsIn, toList_padded, Text.lower_append, Text.lower_append, Text.lower_append, lower_stop]
  exact occursIn_enclosed tests (isWordAt_blank _) (.inr ⟨_, rfl⟩) stands

/-! ### Sources in a padded text -/

/-- No full stop is part of a mention of a source. -/
theorem Lexicon.closed_sourceCue :
  sourceCue.Tests RejectsStop RejectsStop
  := by
  refine LexicalDetector.tests_sourceCue fun s mem => tests_words_of_notMem ?_
  revert s
  simp

theorem Lexicon.sourceCue_of_blank {cs : List Char} (cited : sourceCue.occursIn (' ' :: cs) = true) :
  sourceCue.occursIn cs = true
  := by
  have bounded : Text.isWord ' ' = false := by decide
  refine occursIn_of_cons closed_sourceCue bounded ?_ cited
  rintro ⟨e, mem⟩
  -- no alternative of the cue takes a blank, whatever comes behind it
  have none : sourceCue.ends ⟨none, ' ' :: cs⟩ = [] := by rfl
  rw [none] at mem
  cases mem

/-- Sentences without sources change nothing about the sources of a text. -/
theorem Lexicon.sourceCue_padded (unsourced : sourceCue.occursIn before.toList = false)
    (unsourced' : sourceCue.occursIn after.toList = false) :
  sourceCue.occursIn (padded before text after).toList = sourceCue.occursIn text.toList
  := by
  rw [Bool.eq_iff_iff]
  constructor
  · intro cited
    have cut : (padded before text after).toList
        = before.toList ++ '.' :: ' ' :: (text.toList ++ '.' :: ' ' :: after.toList) := by
      rw [toList_padded, List.append_assoc]
      rfl
    rw [cut] at cited
    obtain cited | cited := occursIn_or_of_stop closed_sourceCue cited
    · rw [unsourced] at cited
      cases cited
    obtain cited | cited := occursIn_or_of_stop closed_sourceCue (sourceCue_of_blank cited)
    · exact cited
    · rw [sourceCue_of_blank cited] at unsourced'
      cases unsourced'
  · apply occursIn_padded
    exact LexicalDetector.tests_sourceCue fun s _ => tests_words_iff.mpr fun _ _ => trivial

end

/-! ### Higher scores -/

/-- Findings that speak for a reflex with scores at least as high as others do give it a score at
least as high. -/
theorem Collects.exists_le_of_topped {fs fs' : List Finding} {scores scores' : Entries Text Binary64}
    {id : Text} {x : Binary64} (collects : Collects fs scores) (collects' : Collects fs' scores')
    (inRange : ∀ f ∈ fs', f.IsInRange)
    (topped : ∀ f ∈ fs, ∀ n, f.Gives id n → ∃ f' ∈ fs', ∃ m, f'.Gives id m ∧ n.le m = true)
    (found : Entries.get? scores id = some x) :
  ∃ y, Entries.get? scores' id = some y ∧ x.le y = true
  := by
  obtain ⟨f, mem, said⟩ := collects.attained found
  obtain ⟨n, z, gives, given, rfl⟩ := Finding.exists_of_entry? said
  obtain ⟨f', mem', m, gives', above⟩ := topped f mem n gives
  obtain ⟨z', given'⟩ := Option.ne_none_iff_exists'.mp (inRange f' mem' m gives'.score)
  obtain ⟨y, found', le⟩ := collects'.bounded f' mem' id _ (gives'.entry? given')
  have clamped : z.clampUnit.le z'.clampUnit = true :=
    (Number.clamps_of_toBinary64? given).le_of_le (Number.clamps_of_toBinary64? given') above
  exact ⟨y, found', Binary64.le_trans clamped le⟩

namespace Lexicon

open Binary64

/-- The highest of some numbers lies under the highest of more numbers. -/
theorem foldl_max_le {first first' : Binary64} {others others' : List Binary64}
    (numbers : ∀ x ∈ first' :: others', x.isNan = false)
    (fewer : first :: others ⊆ first' :: others') :
  (others.foldl max first).le (others'.foldl max first') = true
  := by
  have numbers' : ∀ x ∈ first :: others, x.isNan = false := fun x mem => numbers x (fewer mem)
  rw [List.forall_mem_cons] at numbers numbers'
  have number : (others.foldl max first).isNan = false := by
    have under := (Codex.le_foldl_max numbers'.1 numbers'.2).mpr (.inl (le_refl numbers'.1))
    exact isNan_of_le_right under
  -- the highest number is one of those it is the highest of, and so one of the others, too
  have attained := (Codex.le_foldl_max numbers'.1 numbers'.2).mp (le_refl number)
  have reached : ∃ x ∈ first' :: others', (others.foldl max first).le x = true := by
    obtain under | ⟨x, mem, under⟩ := attained
    · exact ⟨first, fewer List.mem_cons_self, under⟩
    · exact ⟨x, fewer (List.mem_cons_of_mem first mem), under⟩
  rw [Codex.le_foldl_max numbers.1 numbers.2]
  simpa using reached

/-- The score of stacked cues does not fall when more of them are stacked. -/
theorem stackedScore_le {first first' : Binary64} {others others' : List Binary64}
    (nonneg : ∀ x ∈ first' :: others', le 0 x = true)
    (fewer : first :: others ⊆ first' :: others') :
  (stackedScore first others).le (stackedScore first' others') = true
  := by
  have numbers : ∀ x ∈ first' :: others', x.isNan = false :=
    fun x mem => isNan_of_le_right (nonneg x mem)
  have top_le := foldl_max_le numbers fewer
  have top_nonneg : le 0 (others.foldl max first) = true := by
    have nonneg' : ∀ x ∈ first :: others, le 0 x = true := fun x mem => nonneg x (fewer mem)
    obtain ⟨head, tail⟩ := List.forall_mem_cons.mp nonneg'
    rw [Codex.le_foldl_max (isNan_of_le_right head) fun x mem => isNan_of_le_right (tail x mem)]
    exact .inl head
  have tenth : le 0 0.1 = true := by decide +kernel
  have cap : (0.95 : Binary64).isNan = false := by decide +kernel
  have sum_number := isNan_add top_nonneg tenth
  have sum_le : ((others.foldl max first).add 0.1).le ((others'.foldl max first').add 0.1) = true :=
    add_le_add top_nonneg tenth top_le (le_refl (isNan_of_le_right tenth))
  exact le_min (le_trans (min_le_left sum_number) sum_le) (min_le_right sum_number cap)

theorem mem_stacked_iff {cues : List Cue} {f : Finding} :
  f ∈ stacked cues
    ↔ ∃ first second others, cues = first :: second :: others ∧ f = stackedFinding first second others
  := by
  rw [stacked.eq_def]
  split
  · simp
  · rename_i few
    simp only [List.not_mem_nil, false_iff]
    rintro ⟨first, second, others, rfl, -⟩
    exact few _ _ _ rfl

theorem nonneg_urgency :
  ∀ cue ∈ urgency.cues, le 0 cue.score = true
  := by decide +kernel

/-- Stacked cues of urgency stay stacked when more of them occur, and score at least as high. -/
theorem exists_stacked {cues cues' : List Cue} (rows : cues'.Sublist urgency.cues)
    (fewer : cues.Sublist cues') {f : Finding} (mem : f ∈ stacked cues) {id : Text} {n : Number}
    (gives : f.Gives id n) :
  ∃ f' ∈ stacked cues', ∃ m, f'.Gives id m ∧ n.le m = true
  := by
  obtain ⟨first, second, others, rfl, rfl⟩ := mem_stacked_iff.mp mem
  obtain ⟨first', second', others', rfl⟩ :
      ∃ first' second' others', cues' = first' :: second' :: others' := by
    have length := fewer.length_le
    cases cues' with
    | nil => simp at length
    | cons first' cues' =>
      cases cues' with
      | nil => simp at length
      | cons second' others' => exact ⟨first', second', others', rfl⟩
  have nonneg : ∀ x ∈ (first' :: second' :: others').map Cue.score, le 0 x = true := by
    intro x mem
    obtain ⟨cue, mem', rfl⟩ := List.mem_map.mp mem
    exact nonneg_urgency cue (rows.subset mem')
  have above := stackedScore_le nonneg (fewer.map Cue.score).subset
  obtain ⟨named, scored, -⟩ := gives
  cases scored
  refine ⟨stackedFinding first' second' others', mem_stacked_iff.mpr ⟨_, _, _, rfl, rfl⟩,
    .float (stackedScore first'.score (second'.score :: others'.map Cue.score)),
    ⟨named, rfl, ?_⟩, above⟩
  intro nan
  have number := isNan_of_le_right above
  rw [List.map_cons, Number.float.inj nan] at number
  cases number

end Lexicon

/-! ### Scores of a padded text -/

namespace LexicalDetector

variable {d : LexicalDetector} {before text after : String} {id : Text} {n : Number} {f : Finding}

theorem occurring_padded (before text after : String) :
  (Lexicon.urgency.occurring text.toList).Sublist
    (Lexicon.urgency.occurring (padded before text after).toList)
  := by
  have row : (urgency, Lexicon.urgency) ∈ tabled := by simp [tabled]
  have again : Lexicon.urgency.occurring text.toList
      = (Lexicon.urgency.occurring (padded before text after).toList).filter
        fun cue => cue.pattern.occursIn text.toList := by
    rw [Lexicon.occurring, Lexicon.occurring, List.filter_filter]
    apply List.filter_congr
    intro cue mem
    rw [Bool.eq_iff_iff, Bool.and_eq_true]
    exact ⟨fun occurs => ⟨occurs, occursIn_padded (closed_tabled _ row cue mem) occurs⟩, And.left⟩
  rw [again]
  exact List.filter_sublist

/-- A detector that speaks for a reflex on a text does so on the padded text, with a score at
least as high, unless a mention of a source was added. -/
theorem topped_padded (listed : d ∈ registered)
    (unsourced : id = Lexicon.omissionId → Lexicon.sourceCue.occursIn before.toList = false
      ∧ Lexicon.sourceCue.occursIn after.toList = false)
    (mem : f ∈ d.findings text.toList) (gives : f.Gives id n) :
  ∃ f' ∈ d.findings (padded before text after).toList, ∃ m, f'.Gives id m ∧ n.le m = true
  := by
  have same : n.le n = true := Number.le_self gives.number
  rw [registered_eq, List.mem_append, List.mem_map, List.mem_singleton] at listed
  obtain ⟨⟨d, l⟩, row, rfl⟩ | rfl := listed
  case inl =>
    obtain reported | ⟨rfl, -, stacked⟩ := (mem_findings_iff_of_tabled row).mp mem
    case inl =>
      obtain ⟨-, cue, mem', found, searched, rfl⟩ := Lexicon.mem_findings_iff.mp reported
      obtain ⟨found', -, reported'⟩ := reports_padded row mem' ⟨found, searched, mem⟩
      exact ⟨_, reported', n, ⟨gives.id, gives.score, gives.number⟩, same⟩
    case inr =>
      obtain ⟨f', mem', m, gives', above⟩ := Lexicon.exists_stacked List.filter_sublist
        (occurring_padded before text after) stacked gives
      refine ⟨f', (mem_findings_iff_of_tabled row).mpr (.inr ⟨rfl, ?_, mem'⟩), m, gives', above⟩
      simp [padded]
  case inr =>
    obtain ⟨m, stands, rfl⟩ := List.mem_map.mp mem
    obtain ⟨mem', stands⟩ := List.mem_filter.mp stands
    obtain ⟨unsourced, unsourced'⟩ := unsourced (Scalar.text.inj (Value.scalar.inj gives.id)).symm
    refine ⟨_, List.mem_map.mpr ⟨m, List.mem_filter.mpr ⟨mem', ?_⟩, rfl⟩, n, ?_, same⟩
    · exact OmissionMarker.standsIn_padded stands
    · rw [Lexicon.sourceCue_padded unsourced unsourced']
      exact gives

/-- Whatever sentences a text is put between, every cue of a table that is reported on the text
is reported still, and so is every marker of an omission; and no reflex scores lower with any of
the registered detectors, but that of omissions where a mention of a source is added. -/
theorem reported_padded (before text after : String) :
  (∀ d l, (d, l) ∈ tabled → ∀ cue ∈ l.cues,
      d.Reports l cue text → d.Reports l cue (padded before text after))
    ∧ (∀ m ∈ OmissionMarker.all, m.IsReported text → m.IsReported (padded before text after))
    ∧ ∀ ds : List LexicalDetector, (∀ d ∈ ds, d ∈ registered) →
      ∃ scores scores', collectScores (runDetectors text (ds.map detector)) = .ok scores
        ∧ collectScores (runDetectors (padded before text after) (ds.map detector)) = .ok scores'
        ∧ ∀ id : Text, (id = Lexicon.omissionId → Lexicon.sourceCue.occursIn before.toList = false
            ∧ Lexicon.sourceCue.occursIn after.toList = false) →
          ∀ x, Entries.get? scores id = some x →
            ∃ y, Entries.get? scores' id = some y ∧ x.le y = true
  := by
  refine ⟨?tables, ?markers, ?scores⟩
  case tables =>
    intro d l mem cue row reports
    exact reports_padded mem row reports
  case markers =>
    intro m mem reported
    rw [OmissionMarker.isReported_iff_standsIn mem] at reported ⊢
    exact OmissionMarker.standsIn_padded reported
  case scores =>
    intro ds listed
    have inRange (text : String) : ∀ f ∈ runDetectors text (ds.map detector), f.IsInRange := by
      intro f mem
      obtain ⟨d, mem, given⟩ := mem_runDetectors_iff.mp mem
      exact (isPlain_registered (listed d mem) _ f given).isInRange
    obtain ⟨scores, collected, collects⟩ := exists_collects (inRange text)
    obtain ⟨scores', collected', collects'⟩ := exists_collects (inRange (padded before text after))
    refine ⟨scores, scores', collected, collected', ?_⟩
    intro id unsourced x found
    refine collects.exists_le_of_topped collects' (inRange _) ?_ found
    intro f mem n gives
    obtain ⟨d, mem, given⟩ := mem_runDetectors_iff.mp mem
    obtain ⟨f', given', m, gives', above⟩ := topped_padded (listed d mem) unsourced given gives
    exact ⟨f', mem_runDetectors_iff.mpr ⟨d, mem, given'⟩, m, gives', above⟩

/-- The detector of implausible claims. -/
def hallucination : LexicalDetector := ofLexicon "HallucinationDetector" Lexicon.implausible

/-- An implausible claim with a marker of citation. -/
def flatText : String := "Experts agree: the EARTH is flat"

/-- The marker of citation that stands in the text. -/
def agreement : OmissionMarker := ⟨"experts agree", .citation, 0.9⟩

theorem reported_padded_flatText :
  hallucination.Reports Lexicon.implausible Lexicon.flatEarth (padded "Oh" flatText "No")
    ∧ agreement.IsReported (padded "Oh" flatText "No")
    ∧ ∃ scores scores', collectScores (runDetectors flatText (registered.map detector)) = .ok scores
      ∧ collectScores (runDetectors (padded "Oh" flatText "No") (registered.map detector))
        = .ok scores'
      ∧ Entries.get? scores Lexicon.omissionId = some 0.95
      ∧ ∃ y, Entries.get? scores' Lexicon.omissionId = some y ∧ Binary64.le 0.95 y = true
  := by
  have row : (hallucination, Lexicon.implausible) ∈ tabled := by simp [tabled, hallucination]
  have cue : Lexicon.flatEarth ∈ Lexicon.implausible.cues := by simp [Lexicon.implausible]
  have reports : hallucination.Reports Lexicon.implausible Lexicon.flatEarth flatText :=
    (reports_iff row cue).mpr (by decide +kernel)
  have marker : agreement ∈ OmissionMarker.all := by simp [OmissionMarker.all, agreement]
  have reported : agreement.IsReported flatText :=
    (OmissionMarker.isReported_iff_standsIn marker).mpr (by decide +kernel)
  obtain ⟨rows, markers, higher⟩ := reported_padded "Oh" flatText "No"
  obtain ⟨scores, scores', collected, collected', above⟩ := higher registered fun _ mem => mem
  have scored : (collectScores (runDetectors flatText (registered.map detector))).toOption.bind
      (Entries.get? · (Text.ofString Lexicon.omissionId)) = some 0.95 := by
    decide +kernel
  rw [collected] at scored
  have unsourced : Lexicon.sourceCue.occursIn "Oh".toList = false
      ∧ Lexicon.sourceCue.occursIn "No".toList = false := by
    decide +kernel
  exact ⟨rows _ _ row _ cue reports, markers _ marker reported, scores, scores', collected,
    collected', scored, above _ (fun _ => unsourced) _ scored⟩

end LexicalDetector

end ReflexPolicy
