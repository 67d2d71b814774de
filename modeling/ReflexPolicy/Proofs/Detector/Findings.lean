import ReflexPolicy.Lexicon.Registry
import ReflexPolicy.Proofs.Detector.Evidence
import ReflexPolicy.Proofs.Json.Values
import ReflexPolicy.Proofs.Success
import ReflexPolicy.Semantic.Scorer

/-!
# Findings of the detectors

The findings of the registered detectors, and those that a scorer draws from an answer, are plain:
whatever the text and the answer, they give a reflex and a binary64 number, and hold texts besides.
-/

namespace ReflexPolicy

/-- The finding gives a text for an id and a binary64 number for a score, and holds texts
besides. -/
structure Finding.IsPlain (f : Finding) : Prop where
  id : ∃ t, f.reflexId = .text t
  score : ∃ x, f.score = .float x
  rationale : ∃ t, f.rationale = .text t
  label : ∃ t, f.label = .text t
  tags : ∃ names, f.tags = tagsValue names

/-- Plain findings have scores of the format. -/
theorem Finding.IsPlain.isInRange {f : Finding} (plain : f.IsPlain) :
  f.IsInRange
  := by
  obtain ⟨x, score⟩ := plain.score
  intro n number
  rw [score] at number
  cases number
  simp [Number.toBinary64?]

theorem isJson_tagsValue (tags : List String) :
  (tagsValue tags).IsJson
  := by
  apply Value.IsJson.list
  intro v mem
  obtain ⟨t, -, rfl⟩ := List.mem_map.mp mem
  exact Value.isJson_text t

/-! ### Lexical detectors -/

theorem Cue.isPlain_finding (cue : Cue) (id : String) (tags : List String) (found : List Char) :
  (cue.finding id tags found).IsPlain
  := ⟨⟨_, rfl⟩, ⟨_, rfl⟩, ⟨_, rfl⟩, ⟨_, rfl⟩, ⟨_, rfl⟩⟩

namespace Lexicon

theorem isPlain_findings (l : Lexicon) (text : List Char) :
  ∀ f ∈ l.findings text, f.IsPlain
  := by
  intro f mem
  rw [findings] at mem
  split at mem
  · cases mem
  · obtain ⟨cue, -, found⟩ := List.mem_filterMap.mp mem
    obtain ⟨place, -, rfl⟩ := Option.map_eq_some_iff.mp found
    apply Cue.isPlain_finding

theorem isPlain_omissionFindings (text : List Char) :
  ∀ f ∈ omissionFindings text, f.IsPlain
  := by
  intro f mem
  obtain ⟨m, -, rfl⟩ := List.mem_map.mp mem
  exact ⟨⟨_, rfl⟩, ⟨_, rfl⟩, ⟨_, rfl⟩, ⟨_, rfl⟩, ⟨_, rfl⟩⟩

theorem isPlain_urgencyFindings (text : List Char) :
  ∀ f ∈ urgencyFindings text, f.IsPlain
  := by
  intro f mem
  obtain mem | mem := List.mem_append.mp mem
  · exact isPlain_findings urgency text f mem
  · split at mem
    · cases mem
    · rw [stacked.eq_def] at mem
      split at mem
      · obtain rfl := List.mem_singleton.mp mem
        exact ⟨⟨_, rfl⟩, ⟨_, rfl⟩, ⟨_, rfl⟩, ⟨_, rfl⟩, ⟨_, rfl⟩⟩
      · cases mem

end Lexicon

namespace LexicalDetector

theorem mem_of_mem_register {registered : List LexicalDetector} {d e : LexicalDetector}
    (mem : e ∈ register registered d) :
  e ∈ registered ∨ e = d
  := by
  rw [register] at mem
  split at mem
  · exact .inl mem
  · simpa using mem

/-- Nothing is registered but what was asked for. -/
theorem mem_of_mem_foldl {ds registered : List LexicalDetector} {e : LexicalDetector}
    (mem : e ∈ ds.foldl register registered) :
  e ∈ registered ∨ e ∈ ds
  := by
  induction ds generalizing registered with
  | nil => exact .inl mem
  | cons d ds ih =>
    obtain mem | mem := ih mem
    · exact (mem_of_mem_register mem).imp_right fun same => by simp [same]
    · exact .inr (List.mem_cons_of_mem d mem)

/-- The registered detectors have plain findings only. -/
theorem isPlain_registered {d : LexicalDetector} (mem : d ∈ registered) (text : List Char) :
  ∀ f ∈ d.findings text, f.IsPlain
  := by
  obtain mem | mem := mem_of_mem_foldl mem
  · cases mem
  · simp only [List.mem_cons, List.not_mem_nil, or_false] at mem
    obtain rfl | rfl | rfl | rfl | rfl | rfl | rfl := mem
    iterate 5 apply Lexicon.isPlain_findings
    · apply Lexicon.isPlain_urgencyFindings
    · apply Lexicon.isPlain_omissionFindings

end LexicalDetector

/-! ### Scorers -/

namespace Reply

variable {catalogue rationales : Entries Scalar Value}

theorem isPlain_finding? (labels : ∀ e ∈ catalogue, ∃ t, e.2 = .text t) {id : Text} {score : Value}
    {f : Finding} (found : finding? catalogue rationales (.text id) score = .ok (some f)) :
  f.IsPlain
  := by
  rw [finding?] at found
  split at found
  · rename_i label n listed _
    split at found
    · cases found
    · cases found
      obtain ⟨k, -, mem⟩ := Entries.mem_of_get? listed
      exact ⟨⟨_, rfl⟩, ⟨_, rfl⟩, ⟨_, rfl⟩, labels _ mem, ["semantic"], rfl⟩
  · cases found

theorem isPlain_findingsOf (labels : ∀ e ∈ catalogue, ∃ t, e.2 = .text t)
    {scores : Entries Scalar Value} (keys : ∀ e ∈ scores, ∃ t, e.1 = .text t) {fs : List Finding}
    (found : findingsOf catalogue rationales scores = .ok fs) :
  ∀ f ∈ fs, f.IsPlain
  := by
  induction scores generalizing fs with
  | nil =>
    cases found
    simp
  | cons e rest ih =>
    obtain ⟨k, score⟩ := e
    obtain ⟨⟨id, rfl⟩, others⟩ := List.forall_mem_cons.mp keys
    simp only [findingsOf, bind_eq_ok, pure_eq_ok] at found
    obtain ⟨first, foundFirst, fs, foundOthers, rfl⟩ := found
    rw [List.forall_mem_append]
    constructor
    · intro f mem
      rw [Option.mem_toList] at mem
      rw [mem] at foundFirst
      exact isPlain_finding? labels foundFirst
    · exact ih others foundOthers

theorem keys_entriesOf {v : Value} (plain : v.IsJson) :
  ∀ e ∈ entriesOf v, ∃ t, e.1 = .text t
  := by
  cases plain with
  | scalar _ => simp [entriesOf, Value.entries?]
  | list _ => simp [entriesOf, Value.entries?]
  | map keys _ => exact keys

/-- What holds of an absent value and of the values of a mapping holds of its fields. -/
theorem field_of_forall {P : Value → Prop} {es : Entries Scalar Value} (absent : P .null)
    (each : ∀ e ∈ es, P e.2) (name : String) :
  P (Value.field es name)
  := by
  rw [Value.field]
  cases given : Value.field? es name with
  | none => exact absent
  | some v =>
    obtain ⟨k, -, mem⟩ := Entries.mem_of_get? given
    exact each _ mem

theorem isJson_field {es : Entries Scalar Value} (plain : (Value.map es).IsJson) (name : String) :
  (Value.field es name).IsJson
  := by
  cases plain with
  | map _ plain => exact field_of_forall (.scalar trivial) plain name

/-- What is taken for the value of an answer is read from it. -/
theorem of_valueOf {P : Value → Prop} (readable : Json.IsReadable P) {cs : List Char} {v : Value}
    (found : valueOf cs = .ok (some v)) :
  P v
  := by
  rw [valueOf] at found
  split at found
  · rename_i read
    cases found
    exact readable.of_read read
  · cases found
  · split at found
    · rename_i read
      cases found
      obtain ⟨inside, -, read⟩ := Option.map_eq_some_iff.mp read
      exact readable.of_read read
    · cases found
    · cases found

/-- The findings of an answer are plain, whatever it says. -/
theorem isPlain_findings (labels : ∀ e ∈ catalogue, ∃ t, e.2 = .text t) {answer : String}
    {fs : List Finding} (found : findings catalogue answer = .ok fs) :
  ∀ f ∈ fs, f.IsPlain
  := by
  rw [findings] at found
  obtain ⟨v, read, found⟩ := bind_eq_ok.mp found
  split at found
  · rename_i es
    have plain := isJson_field (of_valueOf Json.isReadable_isJson read) "scores"
    exact isPlain_findingsOf labels (keys_entriesOf plain) found
  · cases found
    simp

end Reply

namespace Scorer

variable {s : Scorer}

/-- The findings of a scorer are plain, whatever its model answers. -/
theorem isPlain_contribution (labels : ∀ e ∈ s.catalogue, ∃ t, e.2 = .text t) (passage : String) :
  ∀ f ∈ contribution passage s.detector, f.IsPlain
  := by
  rw [contribution, detector]
  cases found : s.findings passage with
  | error e => simp
  | ok fs =>
    rw [findings] at found
    obtain ⟨question, -, found⟩ := bind_eq_ok.mp found
    cases question with
    | none =>
      cases found
      simp
    | some question =>
      dsimp only at found
      rw [findingsOfAnswer.eq_def] at found
      split at found
      · exact Reply.isPlain_findings labels found
      · cases found
        simp
      · cases found
        simp

end Scorer

end ReflexPolicy
