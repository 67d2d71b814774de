import Mathlib.Data.List.Forall2
import ReflexPolicy.Proofs.Detector.Isolation
import ReflexPolicy.Proofs.Lexicon.Tables
import ReflexPolicy.Proofs.Pattern.Caseless

/-!
# Letter case in a text

Two texts that differ only in the case of ASCII letters have the same findings, but for the
phrases that they quote, and an analysis has the same outcome for both.
-/

namespace ReflexPolicy

open Text (SameButCase isEmpty_of_sameButCase)

/-! ### Findings that differ in their phrases only -/

/-- The findings agree in the reflex, the score, the label and the tags. -/
structure Finding.Alike (f f' : Finding) : Prop where
  reflexId : f.reflexId = f'.reflexId
  score : f.score = f'.score
  label : f.label = f'.label
  tags : f.tags = f'.tags

theorem Finding.Alike.refl (f : Finding) :
  f.Alike f
  := ⟨rfl, rfl, rfl, rfl⟩

/-- Such findings say the same. -/
theorem Finding.Alike.entry?_eq {f f' : Finding} (alike : f.Alike f') :
  f.entry? = f'.entry?
  := by rw [Finding.entry?, Finding.entry?, scoreNumber, scoreNumber, alike.reflexId, alike.score]

theorem sameEvidence_of_alike {fs fs' : List Finding} (alike : List.Forall₂ Finding.Alike fs fs') :
  SameEvidence fs fs'
  := by
  intro said _
  induction alike with
  | nil => simp
  | cons first _ ih => simp only [List.exists_mem_cons_iff, first.entry?_eq, ih]

variable {cs cs' : List Char}

namespace Lexicon

theorem finding?_alike {l : Lexicon} {cue : Cue} (caseless : cue.pattern.IsCaseless)
    (same : SameButCase cs cs') :
  Option.Rel Finding.Alike (l.finding? cs cue) (l.finding? cs' cue)
  := by
  have occurs := Pattern.occursIn_congr caseless same
  rw [Pattern.occursIn, Pattern.occursIn] at occurs
  rw [ finding?, finding?]
  cases searched : cue.pattern.search? cs with
  | none =>
    rw [searched, Option.isSome_none, eq_comm, Option.isSome_eq_false_iff, Option.isNone_iff_eq_none]
      at occurs
    rw [occurs]
    exact .none
  | some found =>
    rw [searched, Option.isSome_some, eq_comm, Option.isSome_iff_exists] at occurs
    obtain ⟨found', searched'⟩ := occurs
    rw [searched']
    exact .some ⟨rfl, rfl, rfl, rfl⟩

/-- A table without letter case has the same findings in both texts, but for the phrases. -/
theorem findings_alike {l : Lexicon} (caseless : ∀ cue ∈ l.cues, cue.pattern.IsCaseless)
    (same : SameButCase cs cs') :
  List.Forall₂ Finding.Alike (l.findings cs) (l.findings cs')
  := by
  have rows : List.Forall₂ (fun cue cue' : Cue => cue = cue' ∧ cue.pattern.IsCaseless)
      l.cues l.cues :=
    List.forall₂_same.mpr fun cue mem => ⟨rfl, caseless cue mem⟩
  rw [findings, findings, isEmpty_of_sameButCase same]
  split
  · exact .nil
  · refine List.rel_filterMap ?_ rows
    rintro cue _ ⟨rfl, caseless⟩
    exact finding?_alike caseless same

theorem occurring_eq {l : Lexicon} (caseless : ∀ cue ∈ l.cues, cue.pattern.IsCaseless)
    (same : SameButCase cs cs') :
  l.occurring cs = l.occurring cs'
  := List.filter_congr fun cue mem => Pattern.occursIn_congr (caseless cue mem) same

theorem omissionFindings_eq (same : SameButCase cs cs') :
  omissionFindings cs = omissionFindings cs'
  := by
  have caseless : sourceCue.IsCaseless :=
    LexicalDetector.tests_sourceCue fun s _ => Pattern.isCaseless_words s
  simp only [omissionFindings, OmissionMarker.standsIn, Text.lower_of_sameButCase same,
    Pattern.occursIn_congr caseless same]

end Lexicon

namespace LexicalDetector

variable {d : LexicalDetector} {ds : List LexicalDetector} {text text' : String}

theorem isCaseless_tabled :
  ∀ e ∈ tabled, ∀ cue ∈ e.2.cues, cue.pattern.IsCaseless
  := by
  have ahead : Lexicon.sourceAhead.IsCaseless :=
    tests_sourceAhead (fun s _ => Pattern.isCaseless_words s) (Text.ignoresCase_has .notDot)
  exact tests_tabled Pattern.ignoresCase_anyCase Text.ignoresCase_has ahead

theorem urgencyFindings_alike (same : SameButCase cs cs') :
  List.Forall₂ Finding.Alike (Lexicon.urgencyFindings cs) (Lexicon.urgencyFindings cs')
  := by
  have row : (urgency, Lexicon.urgency) ∈ tabled := by simp [tabled]
  have caseless := isCaseless_tabled _ row
  rw [Lexicon.urgencyFindings, Lexicon.urgencyFindings, isEmpty_of_sameButCase same,
    Lexicon.occurring_eq caseless same]
  apply List.rel_append (Lexicon.findings_alike caseless same)
  exact List.forall₂_same.mpr fun f _ => .refl f

/-- Every registered detector has the same findings in both texts, but for the phrases. -/
theorem findings_alike (listed : d ∈ registered) (same : SameButCase cs cs') :
  List.Forall₂ Finding.Alike (d.findings cs) (d.findings cs')
  := by
  rw [registered_eq, List.mem_append, List.mem_map, List.mem_singleton] at listed
  obtain ⟨⟨d, l⟩, row, rfl⟩ | rfl := listed
  · obtain ⟨name, rfl⟩ | ⟨rfl, rfl⟩ := ofLexicon_or_urgency row
    · exact Lexicon.findings_alike (isCaseless_tabled _ row) same
    · exact urgencyFindings_alike same
  · simp only [omission, Lexicon.omissionFindings_eq same]
    exact List.forall₂_same.mpr fun f _ => .refl f

/-- With registered detectors, two texts that differ only in the case of ASCII letters have
findings that agree one by one in the reflex, the score, the label and the tags, and an analysis
has the same outcome for both and tells the sink the same. -/
theorem analyze_caseless {σ : Type} (c : Codex) (draft : Draft) (sink : Option (Sink σ))
    (now : Value) (state : σ) (listed : ∀ d ∈ ds, d ∈ registered)
    (same : SameButCase text.toList text'.toList) :
  List.Forall₂ Finding.Alike (runDetectors text (ds.map detector))
      (runDetectors text' (ds.map detector))
    ∧ (c.analyze text (ds.map detector) draft sink now state).map (Except.map Prod.fst) id
      = (c.analyze text' (ds.map detector) draft sink now state).map (Except.map Prod.fst) id
  := by
  have alike : List.Forall₂ Finding.Alike (runDetectors text (ds.map detector))
      (runDetectors text' (ds.map detector)) := by
    rw [runDetectors_detector, runDetectors_detector]
    have rows : List.Forall₂ (fun d d' : LexicalDetector => d = d' ∧ d ∈ registered) ds ds :=
      List.forall₂_same.mpr fun d mem => ⟨rfl, listed d mem⟩
    apply List.rel_flatMap rows
    rintro d _ ⟨rfl, listed⟩
    exact findings_alike listed same
  exact ⟨alike, Codex.analyze_congr sink now state (sameEvidence_of_alike alike)⟩

/-- A text in mixed letter case. -/
def mixedCase : String := "Act NOW: studies Show it"

/-- The text in capitals. -/
def upperCase : String := "ACT NOW: STUDIES SHOW IT"

theorem analyze_caseless_upperCase :
  ∃ c, Codex.ofValue Codex.smallDocument = .ok c
    ∧ SameButCase mixedCase.toList upperCase.toList
    ∧ (runDetectors mixedCase (registered.map detector)).length = 3
    ∧ List.Forall₂ Finding.Alike (runDetectors mixedCase (registered.map detector))
      (runDetectors upperCase (registered.map detector))
    ∧ (c.analyze mixedCase (registered.map detector) Codex.smallDraft (some .collecting) .null
        []).map (Except.map Prod.fst) id
      = (c.analyze upperCase (registered.map detector) Codex.smallDraft (some .collecting) .null
        []).map (Except.map Prod.fst) id
  := by
  obtain ⟨c, loaded⟩ := exists_of_isOk Codex.isOk_smallDocument
  have same : SameButCase mixedCase.toList upperCase.toList := by
    rw [SameButCase]
    decide +kernel
  obtain ⟨alike, outcome⟩ :=
    analyze_caseless c Codex.smallDraft (some .collecting) .null [] (fun _ mem => mem) same
  exact ⟨c, loaded, same, by decide +kernel, alike, outcome⟩

end LexicalDetector

end ReflexPolicy
