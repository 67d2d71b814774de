import ReflexPolicy.Lexicon.Registry
import ReflexPolicy.Proofs.Pattern.Carrying

/-!
# Detectors and their tables

All registered detectors but that of omissions go by a table of cues.  They find the cues that
occur in a text; that of urgency finds the stacked ones besides.
-/

namespace ReflexPolicy

namespace Lexicon

variable {l : Lexicon} {text : List Char} {f : Finding}

/-- The findings in a text are those of the cues that occur in it. -/
theorem mem_findings_iff :
  f ∈ l.findings text
    ↔ text ≠ [] ∧ ∃ cue ∈ l.cues, ∃ found, cue.pattern.search? text = some found
      ∧ f = cue.finding l.reflexId l.tags found
  := by
  rw [findings]
  cases text with
  | nil => simp
  | cons c text =>
    simp [finding?, Option.map_eq_some_iff, @eq_comm _ f]

end Lexicon

namespace LexicalDetector

variable {d : LexicalDetector} {l : Lexicon} {cue : Cue} {text : String}

/-- The registered detectors that go by a table, each with its table. -/
def tabled : List (LexicalDetector × Lexicon) :=
  [(ofLexicon "HallucinationDetector" Lexicon.implausible, Lexicon.implausible),
    (ofLexicon "DatalessClaimDetector" Lexicon.dataless, Lexicon.dataless),
    (ofLexicon "FalsePrecisionDetector" Lexicon.precision, Lexicon.precision),
    (ofLexicon "SpeculativeOverreachDetector" Lexicon.speculation, Lexicon.speculation),
    (ofLexicon "RhetoricalEntrapmentDetector" Lexicon.entrapment, Lexicon.entrapment),
    (urgency, Lexicon.urgency)]

/-- One registered detector goes by no table. -/
theorem registered_eq :
  registered = tabled.map Prod.fst ++ [omission]
  := rfl

theorem ofLexicon_or_urgency (mem : (d, l) ∈ tabled) :
  (∃ name, d = ofLexicon name l) ∨ d = urgency ∧ l = Lexicon.urgency
  := by
  simp only [tabled, List.mem_cons, Prod.mk.injEq, List.not_mem_nil, or_false] at mem
  obtain ⟨rfl, rfl⟩ | ⟨rfl, rfl⟩ | ⟨rfl, rfl⟩ | ⟨rfl, rfl⟩ | ⟨rfl, rfl⟩ | ⟨rfl, rfl⟩ := mem
  case inr.inr.inr.inr.inr => exact .inr ⟨rfl, rfl⟩
  all_goals exact .inl ⟨_, rfl⟩

theorem mem_urgency_findings_iff {text : List Char} {f : Finding} :
  f ∈ urgency.findings text ↔ f ∈ Lexicon.urgency.findings text
    ∨ text ≠ [] ∧ f ∈ Lexicon.stacked (Lexicon.urgency.occurring text)
  := by
  simp only [urgency, Lexicon.urgencyFindings, List.mem_append]
  cases text <;> simp

/-- The findings of the detector are those of its table, but for stacked cues of urgency. -/
theorem mem_findings_iff_of_tabled (mem : (d, l) ∈ tabled) {text : List Char} {f : Finding} :
  f ∈ d.findings text ↔ f ∈ l.findings text
    ∨ d = urgency ∧ text ≠ [] ∧ f ∈ Lexicon.stacked (Lexicon.urgency.occurring text)
  := by
  constructor
  · intro reported
    obtain ⟨name, rfl⟩ | ⟨rfl, rfl⟩ := ofLexicon_or_urgency mem
    · exact .inl reported
    · exact (mem_urgency_findings_iff.mp reported).imp_right fun stacked => ⟨rfl, stacked⟩
  · rintro (listed | ⟨rfl, stacked⟩)
    · obtain ⟨name, rfl⟩ | ⟨rfl, rfl⟩ := ofLexicon_or_urgency mem
      · exact listed
      · exact mem_urgency_findings_iff.mpr (.inl listed)
    · exact mem_urgency_findings_iff.mpr (.inr stacked)

/-- The detector reports a cue of its table in a text. -/
def Reports (d : LexicalDetector) (l : Lexicon) (cue : Cue) (text : String) : Prop :=
  ∃ found, cue.pattern.search? text.toList = some found
    ∧ cue.finding l.reflexId l.tags found ∈ d.findings text.toList

theorem reports_iff (mem : (d, l) ∈ tabled) (row : cue ∈ l.cues) :
  d.Reports l cue text ↔ text.toList ≠ [] ∧ cue.pattern.occursIn text.toList = true
  := by
  constructor
  · rintro ⟨found, searched, reported⟩
    refine ⟨?_, by simp [Pattern.occursIn, searched]⟩
    obtain listed | ⟨-, written, -⟩ := (mem_findings_iff_of_tabled mem).mp reported
    · exact (Lexicon.mem_findings_iff.mp listed).1
    · exact written
  · rintro ⟨written, occurs⟩
    obtain ⟨found, searched⟩ := Option.isSome_iff_exists.mp occurs
    have listed := Lexicon.mem_findings_iff.mpr ⟨written, cue, row, found, searched, rfl⟩
    exact ⟨found, searched, (mem_findings_iff_of_tabled mem).mpr (.inl listed)⟩

/-! ### The tests of the cues -/

section

open Lexicon Pattern

variable {Q Q' : (Char → Bool) → Prop}

/-- What is excluded ahead are words, and what comes before them in a sentence. -/
theorem tests_sourceAhead
    (written : ∀ s ∈ ["source", "study", "according", "et al"], (words s).Tests Q Q')
    (within : Q CharClass.notDot.has) :
  sourceAhead.Tests Q Q'
  := by
  simp only [sourceAhead, tests_inOrder_iff, tests_delimited_iff, tests_wordsOf_iff,
    List.forall_mem_cons, Tests]
  simpa [within] using written

/-- A mention of a source is made of words. -/
theorem tests_sourceCue
    (written : ∀ s ∈ ["source", "link", "reference", "citation", "doi", "et al", "http", "s", "://"],
      (words s).Tests Q Q') :
  sourceCue.Tests Q Q'
  := by
  simp only [sourceCue, tests_oneOf_iff, tests_inOrder_iff, tests_delimited_iff, tests_wordsOf_iff,
    tests_optional_iff, List.forall_mem_cons]
  simpa [and_assoc] using written

/-- The cues of the tables are made of words in any letter case and of classes of characters; what
they exclude ahead is a source that is named. -/
theorem tests_tabled (letters : ∀ c, Q fun d => Text.fold d == c) (classes : ∀ k : CharClass, Q k.has)
    (ahead : sourceAhead.Tests Q' Q) :
  ∀ e ∈ tabled, ∀ cue ∈ e.2.cues, cue.pattern.Tests Q Q'
  := by
  have written (s : String) : (words s).Tests Q Q' := tests_words_iff.mpr fun c _ => letters c
  simp only [tabled, List.forall_mem_cons, implausible, dataless, precision, speculation, entrapment,
    Lexicon.urgency, flatEarth, cheeseMoon, vaccineHarm, climateHoax, youngEarth, burdenReversal,
    speculativeConsensus, namelessSource, vagueAttribution, bareCausation, vagueConsensus,
    falseUnanimity, namelessData, precisePercentage, preciseNumber, assertedExactness, doubleHedge,
    likelyGrowth, barePossibility, mightBe, estimatesShow, falseBinary, presumedFear, presumedGuilt,
    demandedConfession, presumedAgreement, actNow, lastChance, tooLate, runningOut, limitedTime]
  simp [tests_inOrder_iff, tests_oneOf_iff, tests_optional_iff, tests_delimited_iff,
    tests_wordsOf_iff, Tests, written, classes, ahead]

end

/-! ### Runs of the detectors -/

/-- The lexical detectors contribute their findings one after another. -/
theorem runDetectors_detector (text : String) (ds : List LexicalDetector) :
  runDetectors text (ds.map detector) = ds.flatMap fun d => d.findings text.toList
  := List.flatMap_map ..

theorem mem_runDetectors_iff {ds : List LexicalDetector} {f : Finding} :
  f ∈ runDetectors text (ds.map detector) ↔ ∃ d ∈ ds, f ∈ d.findings text.toList
  := by rw [runDetectors_detector, List.mem_flatMap]

end LexicalDetector

end ReflexPolicy
