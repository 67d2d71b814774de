import Mathlib.Data.List.Sublists
import ReflexPolicy.Proofs.Lexicon.Tables
import ReflexPolicy.Proofs.Pattern.Backtracking

/-!
# The findings of a table

The findings of a lexicon are told row by row: a cue whose pattern has a stretch in the text has one
finding, in its place, which quotes the first stretch; a cue that has none has no finding.  Hence a
table of two parts finds what the one part finds and then what the other finds.  For urgency one
finding comes last where two rows have one, and scores as high as any row of the table.
-/

namespace ReflexPolicy

/-- The finding tells the score and the label of the cue, and quotes the first stretch of its
pattern in the text. -/
structure Cue.IsToldBy (cue : Cue) (reflexId : String) (tags : List String) (text : List Char)
    (f : Finding) : Prop where
  reflexId : f.reflexId = .text reflexId
  score : f.score = .float cue.score
  label : f.label = .text cue.label
  tags : f.tags = tagsValue tags
  quotes : ∃ front found rest, text = front ++ (found ++ rest)
    ∧ cue.pattern.IsFirst front found rest
    ∧ f.rationale = .text (cue.rationale ++ ". Phrase: \"" ++ String.ofList (found.take 80) ++ "\"")

/-- The findings are those of the cues whose patterns have a stretch in the text, one for each cue
and in the order of the cues. -/
inductive Tabulates (reflexId : String) (tags : List String) (text : List Char) :
    List Cue → List Finding → Prop
  | nil : Tabulates reflexId tags text [] []
  | found {cue : Cue} {f : Finding} {cues : List Cue} {fs : List Finding} :
    cue.IsToldBy reflexId tags text f → Tabulates reflexId tags text cues fs →
      Tabulates reflexId tags text (cue :: cues) (f :: fs)
  | absent {cue : Cue} {cues : List Cue} {fs : List Finding} :
    ¬cue.pattern.Occurs text → Tabulates reflexId tags text cues fs →
      Tabulates reflexId tags text (cue :: cues) fs

variable {cue : Cue} {cues : List Cue} {text found : List Char} {f : Finding} {reflexId : String}
  {tags : List String}

/-- A cue that is told of has a stretch in the text. -/
theorem Cue.IsToldBy.occurs (told : cue.IsToldBy reflexId tags text f) :
  cue.pattern.Occurs text
  := by
  obtain ⟨front, found, rest, cut, first, -⟩ := told.quotes
  exact ⟨front, found, rest, cut, first.spans⟩

/-- A cue has one finding in a text. -/
theorem Cue.IsToldBy.unique {f' : Finding} (told : cue.IsToldBy reflexId tags text f)
    (told' : cue.IsToldBy reflexId tags text f') :
  f = f'
  := by
  obtain ⟨named, scored, labelled, tagged, front, found, rest, rfl, first, quoted⟩ := told
  obtain ⟨named', scored', labelled', tagged', front', found', rest', same, first', quoted'⟩ := told'
  obtain ⟨-, rfl, -⟩ := first.unique first' same
  cases f
  cases f'
  simp_all

theorem Tabulates.unique {fs fs' : List Finding} (tabulates : Tabulates reflexId tags text cues fs)
    (tabulates' : Tabulates reflexId tags text cues fs') :
  fs = fs'
  := by
  induction tabulates generalizing fs' with
  | nil =>
    cases tabulates'
    rfl
  | found told _ ih =>
    cases tabulates' with
    | found told' tabulates' => rw [told.unique told', ih tabulates']
    | absent none_here => exact (none_here told.occurs).elim
  | absent none_here _ ih =>
    cases tabulates' with
    | found told' => exact (none_here told'.occurs).elim
    | absent _ tabulates' => exact ih tabulates'

namespace Lexicon

open Pattern

/-! ### Row by row -/

theorem isToldBy_finding (searched : cue.pattern.search? text = some found) :
  cue.IsToldBy reflexId tags text (cue.finding reflexId tags found)
  := by
  obtain ⟨front, rest, cut, first⟩ := search?_eq_some_iff.mp searched
  exact ⟨rfl, rfl, rfl, rfl, front, found, rest, cut, first, rfl⟩

theorem tabulates_filterMap (l : Lexicon) (text : List Char) (cues : List Cue) :
  Tabulates l.reflexId l.tags text cues (cues.filterMap (l.finding? text))
  := by
  induction cues with
  | nil => exact .nil
  | cons cue cues ih =>
    cases searched : cue.pattern.search? text with
    | none =>
      have skipped : l.finding? text cue = none := by rw [finding?, searched, Option.map_none]
      rw [List.filterMap_cons_none skipped]
      exact .absent (search?_eq_none_iff.mp searched) ih
    | some found =>
      have told : l.finding? text cue = some (cue.finding l.reflexId l.tags found) := by
        rw [finding?, searched, Option.map_some]
      rw [List.filterMap_cons_some told]
      exact .found (isToldBy_finding searched) ih

theorem tabulates_nil (absent : ∀ cue ∈ cues, ¬cue.pattern.Occurs text) :
  Tabulates reflexId tags text cues []
  := by
  induction cues with
  | nil => exact .nil
  | cons cue cues ih =>
    obtain ⟨none_here, none_behind⟩ := List.forall_mem_cons.mp absent
    exact .absent none_here (ih none_behind)

theorem findings_nil (l : Lexicon) :
  l.findings [] = []
  := rfl

theorem findings_of_ne_nil (l : Lexicon) (written : text ≠ []) :
  l.findings text = l.cues.filterMap (l.finding? text)
  := by
  rw [findings, if_neg]
  simpa using written

/-- The findings of a lexicon are those of its rows, unless a row finds something in the empty
text. -/
theorem tabulates_findings (l : Lexicon)
    (some_text : text = [] → ∀ cue ∈ l.cues, ¬cue.pattern.Occurs []) :
  Tabulates l.reflexId l.tags text l.cues (l.findings text)
  := by
  by_cases written : text = []
  · rw [written, findings_nil]
    exact tabulates_nil (some_text written)
  · rw [findings_of_ne_nil l written]
    exact tabulates_filterMap l text l.cues

theorem tabulates_iff (l : Lexicon)
    (some_text : text = [] → ∀ cue ∈ l.cues, ¬cue.pattern.Occurs []) (fs : List Finding) :
  Tabulates l.reflexId l.tags text l.cues fs ↔ fs = l.findings text
  := by
  constructor
  · intro tabulates
    exact tabulates.unique (tabulates_findings l some_text)
  · rintro rfl
    exact tabulates_findings l some_text

/-- A table of two parts finds what the one finds and then what the other finds. -/
theorem findings_append (reflexId : String) (tags : List String) (cues cues' : List Cue)
    (text : List Char) :
  (Lexicon.mk reflexId tags (cues ++ cues')).findings text
    = (Lexicon.mk reflexId tags cues).findings text
      ++ (Lexicon.mk reflexId tags cues').findings text
  := by
  rw [findings, findings, findings]
  split
  · rfl
  · exact List.filterMap_append ..

/-! ### Stacked cues -/

/-- There are as many findings as there are cues that occur. -/
theorem length_findings (l : Lexicon) (written : text ≠ []) :
  (l.findings text).length = (l.occurring text).length
  := by
  rw [findings_of_ne_nil l written, occurring, List.length_filterMap_eq_countP,
    ← List.countP_eq_length_filter]
  simp [finding?, occursIn]

/-- Whichever two or more rows of the table of urgency are stacked, the score is that of any row of
the table at least. -/
theorem stackedScore_bounds :
  ∀ scores ∈ (urgency.cues.map Cue.score).sublists, 2 ≤ scores.length → ∀ first ∈ scores.head?,
    (∀ cue ∈ urgency.cues, cue.score.le (stackedScore first scores.tail) = true)
      ∧ (stackedScore first scores.tail).le 0.95 = true
  := by decide +kernel

/-- The finding of stacked cues of urgency, of which there are as many as the count says. -/
structure IsStackedBy (count : Nat) (f : Finding) : Prop where
  reflexId : f.reflexId = .text urgency.reflexId
  score : ∃ x : Binary64, f.score = .float x ∧ (∀ cue ∈ urgency.cues, cue.score.le x = true)
    ∧ x.le 0.95 = true
  label : f.label = .text "Stacked urgency cues"
  tags : f.tags = tagsValue (urgency.tags ++ ["stacked"])
  rationale : f.rationale = .text (toString count ++ " separate urgency cues in one passage")

theorem isStackedBy_stackedFinding {first second : Cue} {others : List Cue}
    (rows : (first :: second :: others).Sublist urgency.cues) :
  IsStackedBy (first :: second :: others).length (stackedFinding first second others)
  := by
  have mem := List.mem_sublists.mpr (rows.map Cue.score)
  obtain ⟨above, capped⟩ := stackedScore_bounds _ mem (by simp) first.score rfl
  exact ⟨rfl, ⟨_, rfl, above, capped⟩, rfl, rfl, rfl⟩

/-- One finding is stacked on those of the table where it has two or more, and none elsewhere. -/
theorem exists_stacked_urgencyFindings (text : List Char) :
  ∃ final, urgencyFindings text = urgency.findings text ++ final
    ∧ (2 ≤ (urgency.findings text).length →
      ∃ f, final = [f] ∧ IsStackedBy (urgency.findings text).length f)
    ∧ ((urgency.findings text).length < 2 → final = [])
  := by
  refine ⟨_, rfl, ?_⟩
  by_cases written : text = []
  · subst written
    simp [findings_nil]
  · rw [length_findings urgency written, if_neg (by simpa using written)]
    have rows : (urgency.occurring text).Sublist urgency.cues := List.filter_sublist
    match occurs : urgency.occurring text with
    | [] => simp [stacked]
    | [cue] => simp [stacked]
    | first :: second :: others =>
      rw [occurs] at rows
      refine ⟨fun _ => ⟨_, rfl, isStackedBy_stackedFinding rows⟩, ?_⟩
      intro few
      simp only [List.length_cons] at few
      omega

/-! ### The tables of the detectors -/

/-- No cue of a table finds anything in the empty text. -/
theorem not_occurs_nil_of_tabled :
  ∀ e ∈ LexicalDetector.tabled, ∀ cue ∈ e.2.cues, ¬cue.pattern.Occurs []
  := by
  have unfound : ∀ e ∈ LexicalDetector.tabled, ∀ cue ∈ e.2.cues, cue.pattern.occursIn [] = false := by
    decide +kernel
  intro e mem cue row occurs
  rw [← occursIn_iff_occurs, unfound e mem cue row] at occurs
  cases occurs

end Lexicon

end ReflexPolicy
