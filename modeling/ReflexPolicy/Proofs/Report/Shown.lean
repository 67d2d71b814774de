import ReflexPolicy.Proofs.Detector.Findings
import ReflexPolicy.Proofs.Sorting.Permutation
import ReflexPolicy.Report

/-!
# Reports that are shown

Reports fail on fields that cannot be shown.  The outcome of an evaluation has none, and neither
have plain findings: the reports on them succeed, as text and as JSON.
-/

namespace ReflexPolicy

/-! ### Reports as JSON -/

theorem Outcome.isJson_fields (o : Outcome) :
  ∀ f ∈ o.sheet.fields, f.2.IsJson
  := by
  have fired : (Value.list (o.sheet.fired.map fun f =>
      .ofFields [("reflexId", f.1), ("score", f.2)])).IsJson := by
    apply Value.IsJson.list
    intro v mem
    obtain ⟨f, listed, rfl⟩ := List.mem_map.mp mem
    obtain ⟨h, -, rfl⟩ := List.mem_map.mp listed
    apply Value.isJson_ofFields
    simp [Value.isJson_text, Value.isJson_float]
  have blocked : o.sheet.blockedBy.IsJson := by
    rw [sheet]
    cases o.blockedBy with
    | none => exact .scalar trivial
    | some h => exact Value.isJson_text h.id
  intro f mem
  obtain mem | mem := List.mem_append.mp mem
  · simp only [List.mem_cons, List.not_mem_nil, or_false] at mem
    obtain rfl | rfl | rfl | rfl | rfl | rfl | rfl := mem
    · exact Value.isJson_float _
    · exact fired
    · exact Value.isJson_bool _
    · exact Value.isJson_bool _
    · exact Value.isJson_bool _
    · exact Value.isJson_text _
    · exact Value.isJson_text _
  · split at mem
    · obtain rfl := List.mem_singleton.mp mem
      exact blocked
    · cases mem

theorem Finding.IsPlain.isJson_value {f : Finding} (plain : f.IsPlain) :
  (Report.findingValue f).IsJson
  := by
  obtain ⟨⟨id, atId⟩, ⟨x, atScore⟩, ⟨r, atRationale⟩, ⟨l, atLabel⟩, names, atTags⟩ := plain
  apply Value.isJson_ofFields
  simp [atId, atScore, atRationale, atLabel, atTags, isJson_tagsValue, Value.isJson_text,
    Value.isJson_float]

theorem Value.isWritable_list {items : List Value} :
  (Value.list items).isWritable = true ↔ ∀ v ∈ items, v.isWritable = true
  := by
  rw [isWritable]
  induction items with
  | nil => simp [areWritable]
  | cons v vs ih => simp [areWritable, ih]

theorem Value.isWritable_ofFields {fields : List (String × Value)} :
  (Value.ofFields fields).isWritable = true ↔ ∀ f ∈ fields, f.2.isWritable = true
  := by
  rw [ofFields, isWritable]
  induction fields with
  | nil => simp [entriesAreWritable]
  | cons f rest ih => simp [entriesAreWritable, Scalar.isWritable, ih]

theorem Outcome.isWritable_fields (o : Outcome) :
  ∀ f ∈ o.sheet.fields, f.2.isWritable = true
  := by
  have fired : (Value.list (o.sheet.fired.map fun f =>
      .ofFields [("reflexId", f.1), ("score", f.2)])).isWritable = true := by
    rw [Value.isWritable_list]
    intro v mem
    obtain ⟨f, listed, rfl⟩ := List.mem_map.mp mem
    obtain ⟨h, -, rfl⟩ := List.mem_map.mp listed
    rfl
  have blocked : o.sheet.blockedBy.isWritable = true := by
    rw [sheet]
    cases o.blockedBy <;> rfl
  rw [Sheet.fields, List.forall_mem_append]
  constructor
  · simp only [List.forall_mem_cons, List.not_mem_nil, false_implies, implies_true, and_true]
    exact ⟨rfl, fired, rfl, rfl, rfl, rfl, rfl⟩
  · split
    · rw [List.forall_mem_singleton]
      exact blocked
    · simp

theorem Finding.IsPlain.isWritable_value {f : Finding} (plain : f.IsPlain) :
  (Report.findingValue f).isWritable = true
  := by
  obtain ⟨⟨id, atId⟩, ⟨x, atScore⟩, ⟨r, atRationale⟩, ⟨l, atLabel⟩, names, atTags⟩ := plain
  have tags : (tagsValue names).isWritable = true := by
    rw [tagsValue, Value.isWritable_list]
    intro v mem
    obtain ⟨t, -, rfl⟩ := List.mem_map.mp mem
    rfl
  rw [Report.findingValue, Value.isWritable_ofFields, atId, atScore, atRationale, atLabel, atTags]
  simp only [List.forall_mem_cons, List.not_mem_nil, false_implies, implies_true, and_true]
  exact ⟨rfl, rfl, rfl, rfl, tags⟩

namespace Report

theorem exists_write {fields : List (String × Value)} (plain : ∀ f ∈ fields, f.2.IsJson) :
  ∃ t, Json.write Json.Layout.pages (.ofFields fields) = .ok t
  := by
  have unsorted : Json.Layout.pages.sortKeys = false := rfl
  obtain ⟨t, written, -⟩ := Json.yields_writeAt unsorted (Value.isJson_ofFields plain) 0
  exact ⟨t, written⟩

theorem isWritable_content (o : Outcome) {findings : Option (List Finding)}
    (plain : ∀ fs ∈ findings, ∀ f ∈ fs, f.IsPlain) :
  (content o.sheet findings).isWritable = true
  := by
  rw [content.eq_def, Value.isWritable_ofFields, List.forall_mem_append]
  use o.isWritable_fields
  cases findings with
  | none => simp
  | some fs =>
    rw [List.forall_mem_singleton, Value.isWritable_list]
    intro v mem
    obtain ⟨f, listed, rfl⟩ := List.mem_map.mp mem
    exact (plain fs rfl f listed).isWritable_value

theorem json_of_write {s : Sheet} {findings : Option (List Finding)} {t : String}
    (written : Json.write Json.Layout.pages (content s findings) = .ok t)
    (writable : (content s findings).isWritable = true) :
  json s findings = .ok t
  := by simp only [json, written, writable, if_true]

/-- The report on an outcome without findings is its wire form as JSON. -/
theorem json_eq_ok (o : Outcome) :
  ∃ t, Json.write Json.Layout.pages o.wire = .ok t ∧ json o.sheet none = .ok t
  := by
  obtain ⟨t, written⟩ := exists_write o.isJson_fields
  refine ⟨t, written, json_of_write ?_ (isWritable_content o (by simp))⟩
  rw [content, List.append_nil, written]

theorem yields_json (o : Outcome) {findings : Option (List Finding)}
    (plain : ∀ fs ∈ findings, ∀ f ∈ fs, f.IsPlain) :
  Yields (fun _ => True) (json o.sheet findings)
  := by
  cases findings with
  | none =>
    obtain ⟨t, -, reported⟩ := json_eq_ok o
    exact ⟨t, reported, trivial⟩
  | some fs =>
    have found : ∀ f ∈ [("findings", Value.list (fs.map findingValue))], f.2.IsJson := by
      rw [List.forall_mem_singleton]
      apply Value.IsJson.list
      intro v mem
      obtain ⟨f, listed, rfl⟩ := List.mem_map.mp mem
      exact (plain fs rfl f listed).isJson_value
    obtain ⟨t, written⟩ := exists_write (List.forall_mem_append.mpr ⟨o.isJson_fields, found⟩)
    exact ⟨t, json_of_write written (isWritable_content o plain), trivial⟩

/-! ### Reports as text -/

theorem twoPlaces_float (x : Binary64) :
  twoPlaces (.float x) = .ok (x.fixed 2)
  := rfl

theorem shown_text (t : Text) :
  shown (.text t) = .ok t
  := rfl

theorem yields_linesOf {α : Type} {line : α → Except Fault Text} {as : List α}
    (shows : ∀ a ∈ as, Yields (fun _ => True) (line a)) :
  Yields (fun _ => True) (linesOf line as)
  := by
  induction as with
  | nil => exact yields_ok trivial
  | cons a as ih =>
    obtain ⟨first, shows⟩ := List.forall_mem_cons.mp shows
    apply yields_bind first
    rintro t -
    apply yields_bind (ih shows)
    rintro ts -
    exact yields_pure trivial

theorem yields_blockLines (c : Codex) (o : Outcome) :
  Yields (fun _ => True) (blockLines c o.sheet)
  := by
  rw [blockLines, Outcome.sheet]
  cases o.blockedBy with
  | none => exact yields_ok trivial
  | some h => exact yields_ok trivial

theorem yields_firedLines (c : Codex) (o : Outcome) :
  Yields (fun _ => True) (firedLines c o.sheet)
  := by
  have shows : ∀ f ∈ o.sheet.fired, Yields (fun _ => True) (firedLine c f) := by
    intro f mem
    obtain ⟨h, -, rfl⟩ := List.mem_map.mp mem
    exact yields_ok trivial
  apply yields_bind (yields_linesOf shows)
  rintro lines -
  exact yields_pure trivial

/-! ### Findings in order -/

/-- The key that plain findings are sorted by: a number and a text. -/
def IsKey (keyed : Value × Finding) : Prop :=
  (∃ n t, keyed.1 = .list [.number n, .text t]) ∧ keyed.2.IsPlain

theorem yields_keyed {findings : List Finding} (plain : ∀ f ∈ findings, f.IsPlain) :
  Yields (fun keys => ∀ k ∈ keys, IsKey k) (keyed findings)
  := by
  induction findings with
  | nil => exact yields_ok (by simp)
  | cons f rest ih =>
    obtain ⟨first, plain⟩ := List.forall_mem_cons.mp plain
    obtain ⟨x, score⟩ := first.score
    obtain ⟨t, id⟩ := first.id
    rw [keyed, score, negated]
    apply yields_bind (yields_ok (Q := fun v => v = .number (Number.neg (.float x))) rfl)
    rintro v rfl
    apply yields_bind (ih plain)
    intro keys all
    apply yields_pure
    rw [List.forall_mem_cons]
    exact ⟨⟨⟨_, t, by rw [id]⟩, first⟩, all⟩

/-- The keys of plain findings can be compared. -/
theorem compares_keys :
  Sorting.Compares (fun a b : Value × Finding => a.1.less b.1) IsKey
  := by
  rintro a b ⟨⟨n, t, atA⟩, -⟩ ⟨⟨m, u, atB⟩, -⟩
  simp only [atA, atB, Value.less, Value.compare, Value.compareItems]
  split
  · split
    · exact yields_ok trivial
    · exact yields_ok trivial
  · exact yields_ok trivial

/-- Plain findings are listed in some order, none of them lost. -/
theorem yields_sorted {findings : List Finding} (plain : ∀ f ∈ findings, f.IsPlain) :
  Yields (fun found => ∀ f ∈ found, f.IsPlain) (sorted findings)
  := by
  apply yields_bind (yields_keyed plain)
  intro keys all
  obtain ⟨found, sorted, perm⟩ := Sorting.yields_sort compares_keys all
  simp only [sorted]
  apply yields_pure
  intro f mem
  obtain ⟨k, listed, rfl⟩ := List.mem_map.mp mem
  exact (all k (perm.mem_iff.mp listed)).2

theorem yields_findingLines {f : Finding} (plain : f.IsPlain) :
  Yields (fun _ => True) (findingLines f)
  := by
  obtain ⟨⟨id, atId⟩, ⟨x, atScore⟩, ⟨r, atRationale⟩, ⟨l, atLabel⟩, -⟩ := plain
  have label : Yields (fun _ => True) (labelText (.text l)) := by
    rw [labelText]
    split
    · exact yields_ok trivial
    · exact yields_ok trivial
  have rationale : Yields (fun _ => True) (rationaleLines (.text r)) := by
    rw [rationaleLines]
    split
    · exact yields_ok trivial
    · exact yields_ok trivial
  rw [findingLines, atId, atScore, atRationale, atLabel, twoPlaces_float, shown_text]
  change Yields (fun _ => True) (labelText (.text l) >>= _)
  apply yields_bind label
  rintro l -
  apply yields_bind rationale
  rintro lines -
  exact yields_pure trivial

theorem yields_linesOfFindings {findings : List Finding} (plain : ∀ f ∈ findings, f.IsPlain) :
  Yields (fun _ => True) (linesOfFindings findings)
  := by
  induction findings with
  | nil => exact yields_ok trivial
  | cons f rest ih =>
    obtain ⟨first, plain⟩ := List.forall_mem_cons.mp plain
    apply yields_bind (yields_findingLines first)
    rintro lines -
    apply yields_bind (ih plain)
    rintro others -
    exact yields_pure trivial

theorem yields_findingsLines {findings : List Finding} (plain : ∀ f ∈ findings, f.IsPlain) :
  Yields (fun _ => True) (findingsLines findings)
  := by
  rw [findingsLines]
  split
  · exact yields_ok trivial
  · apply yields_bind (yields_sorted plain)
    intro found all
    apply yields_bind (yields_linesOfFindings all)
    rintro lines -
    exact yields_pure trivial

/-- Whether a report can be shown depends on the lines on its findings. -/
theorem exists_text_iff {c : Codex} {o : Outcome} {findings : List Finding} :
  (∃ t, text c o.sheet findings = .ok t) ↔ ∃ lines, findingsLines findings = .ok lines
  := by
  obtain ⟨block, blocked, -⟩ := yields_blockLines c o
  obtain ⟨fired, listed, -⟩ := yields_firedLines c o
  have profile : shown o.sheet.profile = .ok o.profile := rfl
  have floor : twoPlaces o.sheet.minConfidence = .ok (o.minConfidence.fixed 2) := rfl
  rw [text, profile, floor, blocked, listed]
  change (∃ t, (findingsLines findings >>= _) = .ok t) ↔ _
  constructor
  · intro reported
    obtain ⟨lines, found, -⟩ := exists_bind_iff.mp reported
    exact ⟨lines, found⟩
  · rintro ⟨lines, found⟩
    exact exists_bind_iff.mpr ⟨lines, found, _, rfl⟩

/-- The report on an evaluated outcome with plain findings succeeds. -/
theorem yields_text (c : Codex) (o : Outcome) {findings : List Finding}
    (plain : ∀ f ∈ findings, f.IsPlain) :
  Yields (fun _ => True) (text c o.sheet findings)
  := by
  obtain ⟨lines, found, -⟩ := yields_findingsLines plain
  obtain ⟨t, reported⟩ := exists_text_iff.mpr ⟨lines, found⟩
  exact ⟨t, reported, trivial⟩

end Report

end ReflexPolicy
