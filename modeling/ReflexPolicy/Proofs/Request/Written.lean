import ReflexPolicy.Proofs.Request.Keys
import ReflexPolicy.Proofs.Request.WellFormed

/-!
# Requests as they are written

What a request on the wire is evaluated with is what its mapping writes, field by field: a default
stands for a field only if the mapping does not write it, and a value that a field cannot have leads
to a rejection.  The age is an exception.  A value that counts as false is taken for the age of a
session that has just begun, even if it is no mapping, as if no age had been written.
-/

namespace ReflexPolicy

variable {es : Entries Scalar Value} {names : List String} {default v : Value}

/-! ### Fields with a default -/

/-- The value that the mapping writes for a field, or the default if it writes none. -/
def Takes (es : Entries Scalar Value) (names : List String) (default v : Value) : Prop :=
  Writes es names v ∨ (∀ w, ¬Writes es names w) ∧ v = default

theorem takes_iff (once : WritesOnce es names) :
  Takes es names default v ↔ (pick? es names).getD default = v
  := by
  cases picked : pick? es names with
  | none =>
    have unwritten := pick?_eq_none_iff.mp picked
    rw [Option.getD_none, Takes, or_iff_right (unwritten v), and_iff_right unwritten]
    exact eq_comm
  | some w =>
    have writes := (pick?_eq_some_iff once).mp picked
    have written : ¬∀ w, ¬Writes es names w := fun unwritten => unwritten w writes
    rw [Option.getD_some, Takes, or_iff_left (fun taken => written taken.1),
      ← pick?_eq_some_iff once, picked, Option.some.injEq]

/-- Mappings that write the same for a field have the same picked for it. -/
theorem pick?_congr {es' : Entries Scalar Value} (once : WritesOnce es names)
    (once' : WritesOnce es' names) (same : ∀ v, Writes es names v ↔ Writes es' names v) :
  pick? es names = pick? es' names
  := by
  apply Option.ext
  intro v
  rw [pick?_eq_some_iff once, pick?_eq_some_iff once', same]

/-! ### Ages -/

/-- The age that a mapping writes: the counts of a mapping under its key, and otherwise the age of a
session that has just begun, for which either nothing is written or what counts as false. -/
inductive WritesAge (es : Entries Scalar Value) : DraftAge → Prop where
  | counts (as : Entries Scalar Value) (turns tokens : Value)
      (writes : Writes es spellings.age (.map as))
      (turnsTaken : Takes as spellings.turns (.int 0) turns)
      (tokensTaken : Takes as spellings.tokens (.int 0) tokens) : WritesAge es (.counts turns tokens)
  | fresh (ageless : ∀ v, Writes es spellings.age v → v.entries? = none ∧ v.truthy = false) :
      WritesAge es .fresh

theorem age_mem_fields :
  spellings.age ∈ spellings.fields
  := by decide

theorem turns_mem_counts :
  spellings.turns ∈ spellings.counts
  := by decide

theorem tokens_mem_counts :
  spellings.tokens ∈ spellings.counts
  := by decide

/-- What is no mapping is an age only if it counts as false. -/
theorem ageOfField_of_entries?_none (none : v.entries? = none) {a : DraftAge} :
  ageOfField (some v) = .ok a ↔ v.truthy = false ∧ a = .fresh
  := by
  cases truthy : v.truthy with
  | false => simp [ageOfField, truthy, eq_comm]
  | true =>
    cases v with
    | map as => cases none
    | scalar s => simp [ageOfField, truthy]
    | list items => simp [ageOfField, truthy]

theorem ageOfField_eq_ok_iff (once : IsWrittenOnce es) {a : DraftAge} :
  ageOfField (pick? es spellings.age) = .ok a ↔ WritesAge es a
  := by
  have picks {v : Value} := pick?_eq_some_iff (v := v) (once.fields _ age_mem_fields)
  cases picked : pick? es spellings.age with
  | none =>
    have unwritten := pick?_eq_none_iff.mp picked
    constructor
    · rintro ⟨⟩
      exact .fresh fun v writes => absurd writes (unwritten v)
    · intro written
      cases written with
      | counts as _ _ writes => exact absurd writes (unwritten _)
      | fresh => rfl
  | some v =>
    have writes := picks.mp picked
    have only {w : Value} (writes' : Writes es spellings.age w) : w = v := by
      rw [← picks, picked, Option.some.injEq] at writes'
      exact writes'.symm
    cases entries : v.entries? with
    | some as =>
      obtain rfl := Value.entries?_eq_some_iff.mp entries
      have counts := once.counts_of_writes writes
      rw [ageOfField_map, Except.ok.injEq]
      constructor
      · rintro rfl
        exact .counts as _ _ writes ((takes_iff (counts _ turns_mem_counts)).mpr rfl)
          ((takes_iff (counts _ tokens_mem_counts)).mpr rfl)
      · intro written
        cases written with
        | counts as' turns tokens writes' turnsTaken tokensTaken =>
          obtain ⟨⟩ := only writes'
          rw [(takes_iff (counts _ turns_mem_counts)).mp turnsTaken,
            (takes_iff (counts _ tokens_mem_counts)).mp tokensTaken]
        | fresh ageless =>
          obtain ⟨none, -⟩ := ageless _ writes
          cases none
    | none =>
      rw [ageOfField_of_entries?_none entries]
      constructor
      · rintro ⟨falsy, rfl⟩
        apply WritesAge.fresh
        intro w writes'
        rw [only writes']
        exact ⟨entries, falsy⟩
      · intro written
        cases written with
        | counts as _ _ writes' =>
          rw [← only writes'] at entries
          cases entries
        | fresh ageless => exact ⟨(ageless v writes).2, rfl⟩

/-! ### Drafts -/

/-- The draft has in each field what the mapping writes for it. -/
structure Draft.IsWrittenBy (d : Draft) (es : Entries Scalar Value) : Prop where
  tier : Takes es spellings.tier .null d.tier
  mode : Takes es spellings.mode .null d.mode
  scores : Takes es spellings.scores (.map []) d.scores
  age : WritesAge es d.age
  externalClaim : Takes es spellings.externalClaim (.bool false) d.externalClaim
  citation : Takes es spellings.citation (.text "auto") d.citation
  omission : Takes es spellings.omission .null d.omission
  profile : Takes es spellings.profile (.text "default") d.profile

/-- The draft that has what is picked from a mapping, and some age. -/
def Draft.picked (es : Entries Scalar Value) (age : DraftAge) : Draft where
  tier := (pick? es spellings.tier).getD .null
  mode := (pick? es spellings.mode).getD .null
  scores := (pick? es spellings.scores).getD (.map [])
  age := age
  externalClaim := (pick? es spellings.externalClaim).getD (.bool false)
  citation := (pick? es spellings.citation).getD (.text "auto")
  omission := (pick? es spellings.omission).getD .null
  profile := (pick? es spellings.profile).getD (.text "default")

/-- A mapping is read in three steps: it has a tier, it has a mode, and it has an age. -/
theorem ofEntries_eq (es : Entries Scalar Value) :
  Draft.ofEntries es
    = if ((pick? es spellings.tier).getD .null).isNull then .error .tierMissing
      else if ((pick? es spellings.mode).getD .null).isNull then .error .modeMissing
      else (ageOfField (pick? es spellings.age)).map (Draft.picked es)
  := by
  rw [Draft.ofEntries]
  cases ((pick? es spellings.tier).getD .null).isNull with
  | true => rfl
  | false =>
    cases ((pick? es spellings.mode).getD .null).isNull with
    | true => rfl
    | false => cases ageOfField (pick? es spellings.age) <;> rfl

/-- What is picked from a mapping is what it writes. -/
theorem isWrittenBy_iff (once : IsWrittenOnce es) {d : Draft} :
  d.IsWrittenBy es ↔ WritesAge es d.age ∧ Draft.picked es d.age = d
  := by
  have taken {names : List String} (known : names ∈ spellings.fields) {default v : Value} :
      Takes es names default v ↔ (pick? es names).getD default = v :=
    takes_iff (once.fields names known)
  constructor
  · intro written
    use written.age
    rw [Draft.picked, (taken (by decide)).mp written.tier, (taken (by decide)).mp written.mode,
      (taken (by decide)).mp written.scores, (taken (by decide)).mp written.externalClaim,
      (taken (by decide)).mp written.citation, (taken (by decide)).mp written.omission,
      (taken (by decide)).mp written.profile]
  · rintro ⟨age, picked⟩
    rw [← picked]
    exact {
      tier := (taken (by decide)).mpr rfl
      mode := (taken (by decide)).mpr rfl
      scores := (taken (by decide)).mpr rfl
      age := age
      externalClaim := (taken (by decide)).mpr rfl
      citation := (taken (by decide)).mpr rfl
      omission := (taken (by decide)).mpr rfl
      profile := (taken (by decide)).mpr rfl }

/-- A mapping is read as the draft that it writes, if there are a tier and a mode in it. -/
theorem ofEntries_eq_ok_iff (once : IsWrittenOnce es) {d : Draft} :
  Draft.ofEntries es = .ok d ↔ d.IsWrittenBy es ∧ d.tier.isNull = false ∧ d.mode.isNull = false
  := by
  rw [ofEntries_eq, isWrittenBy_iff once]
  constructor
  · intro read
    split_ifs at read with tier mode
    obtain ⟨a, age, rfl⟩ := map_eq_ok.mp read
    rw [Bool.not_eq_true] at tier mode
    exact ⟨⟨(ageOfField_eq_ok_iff once).mp age, rfl⟩, tier, mode⟩
  · rintro ⟨⟨age, picked⟩, tier, mode⟩
    rw [← picked, Draft.picked] at tier mode
    rw [tier, mode, (ageOfField_eq_ok_iff once).mpr age, ← picked]
    rfl

theorem ageOfField_fails (field : Option Value) :
  FailsAs (· = .ageNotMapping) (ageOfField field)
  := by
  intro cause failed
  cases field with
  | none => cases failed
  | some v =>
    cases truthy : v.truthy with
    | false => simp [ageOfField, truthy] at failed
    | true => cases v <;> simp_all [ageOfField]

/-- A mapping that cannot be read is rejected in words that quote nothing. -/
theorem wordable_ofEntries (es : Entries Scalar Value) :
  FailsAs (fun cause => cause.isWritable = true) (Draft.ofEntries es)
  := by
  intro cause failed
  rw [ofEntries_eq] at failed
  split_ifs at failed
  · cases failed
    rfl
  · cases failed
    rfl
  · cases age : ageOfField (pick? es spellings.age) with
    | ok a =>
      rw [age] at failed
      cases failed
    | error cause' =>
      rw [age] at failed
      cases failed
      rw [ageOfField_fails _ _ age]
      rfl

/-- What stands in the place of the age and is neither a mapping nor counts as false is rejected. -/
theorem rejected_of_noMapping (once : IsWrittenOnce es) (writes : Writes es spellings.age v)
    (none : v.entries? = none) (truthy : v.truthy = true) :
  ∃ cause, Draft.ofEntries es = .error cause
  := by
  cases read : Draft.ofEntries es with
  | error cause => exact ⟨cause, rfl⟩
  | ok d =>
    have age := (ageOfField_eq_ok_iff once).mpr ((ofEntries_eq_ok_iff once).mp read).1.age
    rw [(pick?_eq_some_iff (once.fields _ age_mem_fields)).mpr writes,
      ageOfField_of_entries?_none none, truthy] at age
    cases age.1

/-- A draft that is well-formed has a tier and a mode. -/
theorem Draft.WellFormed.named {d : Draft} (wellFormed : d.WellFormed) :
  d.tier.isNull = false ∧ d.mode.isNull = false
  := by
  obtain ⟨t, tier⟩ := wellFormed.tier
  obtain ⟨m, mode⟩ := wellFormed.mode
  constructor
  · rw [← Bool.not_eq_true, Value.isNull_iff]
    intro null
    rw [null] at tier
    cases tier
  · rw [← Bool.not_eq_true, Value.isNull_iff]
    intro null
    rw [null] at mode
    cases mode

/-! ### Mappings without an age -/

/-- The entries of a mapping that are not under a spelling of the age. -/
def withoutAge (es : Entries Scalar Value) : Entries Scalar Value :=
  es.filter fun e => !spells spellings.age e.1

theorem not_writes_withoutAge (v : Value) :
  ¬Writes (withoutAge es) spellings.age v
  := by
  rintro ⟨e, mem, spelled, -⟩
  have other := (List.mem_filter.mp mem).2
  rw [spelled] at other
  cases other

/-- The other fields are written as before. -/
theorem writes_withoutAge_iff (known : names ∈ spellings.fields) (other : names ≠ spellings.age) :
  Writes (withoutAge es) names v ↔ Writes es names v
  := by
  constructor
  · rintro ⟨e, mem, spelled⟩
    exact ⟨e, List.mem_of_mem_filter mem, spelled⟩
  · rintro ⟨e, mem, spelled, value⟩
    have unaged : ¬spells spellings.age e.1 = true := fun aged =>
      other (areApart_fields.eq_of_spells known age_mem_fields spelled aged)
    refine ⟨e, List.mem_filter.mpr ⟨mem, ?_⟩, spelled, value⟩
    rwa [Bool.not_eq_true', ← Bool.not_eq_true]

theorem pick?_withoutAge (once : IsWrittenOnce es) (known : names ∈ spellings.fields)
    (other : names ≠ spellings.age) :
  pick? (withoutAge es) names = pick? es names
  := by
  have once := once.fields names known
  have once' : WritesOnce (withoutAge es) names := Nat.le_trans List.filter_sublist.countP_le once
  exact pick?_congr once' once fun v => writes_withoutAge_iff known other

/-- An age that counts as false is read as if it were not there. -/
theorem ofEntries_withoutAge (once : IsWrittenOnce es) (writes : Writes es spellings.age v)
    (falsy : v.truthy = false) :
  Draft.ofEntries (withoutAge es) = Draft.ofEntries es
  := by
  have same (names : List String) (known : names ∈ spellings.fields)
      (other : names ≠ spellings.age) : pick? (withoutAge es) names = pick? es names :=
    pick?_withoutAge once known other
  have age : ageOfField (pick? (withoutAge es) spellings.age)
      = ageOfField (pick? es spellings.age) := by
    rw [pick?_eq_none_iff.mpr not_writes_withoutAge,
      (pick?_eq_some_iff (once.fields _ age_mem_fields)).mpr writes]
    simp [ageOfField, falsy]
  have tier := same spellings.tier (by decide) (by decide)
  have mode := same spellings.mode (by decide) (by decide)
  have picked : Draft.picked (withoutAge es) = Draft.picked es := by
    funext a
    rw [Draft.picked, Draft.picked, tier, mode, same spellings.scores (by decide) (by decide),
      same spellings.externalClaim (by decide) (by decide),
      same spellings.citation (by decide) (by decide),
      same spellings.omission (by decide) (by decide),
      same spellings.profile (by decide) (by decide)]
  rw [ofEntries_eq, ofEntries_eq, tier, mode, age, picked]

/-! ### Answers -/

/-- What comes of a mapping that is evaluated is what comes of the draft that is read from it. -/
theorem Codex.evaluateWire_fst {σ : Type} (c : Codex) (es : Entries Scalar Value)
    (sink : Option (Sink σ)) (now : Value) (state : σ) :
  (c.evaluateWire (.map es) sink now state).1
    = Fault.ofRejection (Draft.ofEntries es) >>= c.evaluate
  := by
  rw [Codex.evaluateWire, Draft.ofValue]
  cases Draft.ofEntries es with
  | error cause => rfl
  | ok d => exact c.evaluateWith_fst d sink now state

/-- The answer to a mapping comes of what it writes: of all its values where it is evaluated, and else
it is a rejection, unless a score is beyond the format or what is rejected cannot be written.  Only
an age that counts as false is not told from one that is not there. -/
structure Codex.AnswersWritten (c : Codex) (es : Entries Scalar Value)
    (answer : Except Fault Outcome) : Prop where
  answered : (∃ o, answer = .ok o) ↔ ∃ d : Draft, d.IsWrittenBy es ∧ d.WellFormed
  carried : ∀ o, answer = .ok o →
    ∃ (d : Draft) (r : Request), d.IsWrittenBy es ∧ d.Carries r ∧ c.outcome r = .ok o
  failed : ∀ e, answer = .error e → (∃ cause, e.reported = .rejected cause)
    ∨ ∃ d : Draft, d.IsWrittenBy es ∧ (e.reported = .tooLarge ∧ d.Overflows
      ∨ e.reported = .misuse .tooLong ∧ ¬d.IsWritable)
  noMapping : ∀ v, Writes es spellings.age v → v.entries? = none → v.truthy = true →
    ∃ cause, answer = .error (.rejected cause)
  falsyAge : ∀ v, Writes es spellings.age v → v.truthy = false →
    Draft.ofEntries es = Draft.ofEntries (withoutAge es)

variable {c : Codex}

/-- What is answered has been read as a draft that the mapping writes and that passes its checks. -/
theorem Codex.passes_of_answered {o : Outcome} (once : IsWrittenOnce es)
    (answered : Fault.ofRejection (Draft.ofEntries es) >>= c.evaluate = .ok o) :
  ∃ (d : Draft) (r : Request), d.IsWrittenBy es ∧ d.Passes r ∧ c.outcome r = .ok o
  := by
  obtain ⟨d, read, answered⟩ := bind_eq_ok.mp answered
  obtain ⟨r, valid, outcome⟩ := bind_eq_ok.mp answered
  have written := (ofEntries_eq_ok_iff once).mp (ofRejection_eq_ok_iff.mp read)
  exact ⟨d, r, written.1, Draft.validate_eq_ok_iff.mp valid, outcome⟩

/-- A draft that is written and well-formed is answered by a codex that was loaded. -/
theorem Codex.answered_of_wellFormed {document : Value} (loaded : ofValue document = .ok c)
    (once : IsWrittenOnce es) {d : Draft} (written : d.IsWrittenBy es) (wellFormed : d.WellFormed) :
  ∃ o, Fault.ofRejection (Draft.ofEntries es) >>= c.evaluate = .ok o
  := by
  obtain ⟨r, passes⟩ := wellFormed.passes
  have valid := Draft.validate_eq_ok_iff.mpr passes
  obtain ⟨-, -, o, -, -, outcome, -⟩ := outcome_of_loaded loaded valid
  have read := (ofEntries_eq_ok_iff once).mpr ⟨written, wellFormed.named⟩
  exact ⟨o, bind_eq_ok.mpr
    ⟨d, ofRejection_eq_ok_iff.mpr read, (evaluate_of_validate valid).trans outcome⟩⟩

/-- A draft that fails is rejected, unless a score is beyond the format or the rejection cannot be
worded. -/
theorem Codex.reported_of_evaluate {document : Value} (loaded : ofValue document = .ok c)
    {d : Draft} {e : Fault} (failed : c.evaluate d = .error e) :
  (∃ cause, e.reported = .rejected cause) ∨ e.reported = .tooLarge ∧ d.Overflows
    ∨ e.reported = .misuse .tooLong ∧ ¬d.IsWritable
  := by
  obtain ⟨invalid, ⟨cause, rfl⟩ | ⟨rfl, overflows⟩⟩ := rejected_or_of_evaluate loaded failed
  · cases writable : cause.isWritable with
    | true => exact .inl ⟨cause, Fault.isWordable_rejected writable⟩
    | false =>
      have unworded : (Fault.rejected cause).reported = .misuse .tooLong := by
        rw [Fault.reported, writable]
        rfl
      refine .inr (.inr ⟨unworded, ?_⟩)
      intro all
      have worded : (Fault.rejected cause).reported = .rejected cause := all.wordable _ invalid
      rw [unworded] at worded
      cases worded
  · exact .inr (.inl ⟨rfl, overflows⟩)

/-- Whatever a mapping on the wire writes, each field under one key, a codex that was loaded answers
what is written. -/
theorem Codex.evaluateWire_written {σ : Type} {document : Value}
    (loaded : ofValue document = .ok c) (once : IsWrittenOnce es) (sink : Option (Sink σ))
    (now : Value) (state : σ) :
  c.AnswersWritten es (c.evaluateWire (.map es) sink now state).1
  := by
  rw [evaluateWire_fst]
  exact {
    answered := by
      constructor
      · rintro ⟨o, answered⟩
        obtain ⟨d, r, written, passes, -⟩ := passes_of_answered once answered
        exact ⟨d, written, passes.wellFormed⟩
      · rintro ⟨d, written, wellFormed⟩
        exact answered_of_wellFormed loaded once written wellFormed
    carried := by
      intro o answered
      obtain ⟨d, r, written, passes, outcome⟩ := passes_of_answered once answered
      exact ⟨d, r, written, passes.carries, outcome⟩
    failed := by
      intro e failed
      obtain unread | ⟨d, read, failed⟩ := bind_eq_error.mp failed
      · obtain ⟨cause, rfl⟩ := rejected_of_ofRejection unread
        have wordable := wordable_ofRejection (wordable_ofEntries es) _ unread
        exact .inl ⟨cause, wordable⟩
      · have written := (ofEntries_eq_ok_iff once).mp (ofRejection_eq_ok_iff.mp read)
        obtain rejected | other := reported_of_evaluate loaded failed
        · exact .inl rejected
        · exact .inr ⟨d, written.1, other⟩
    noMapping := by
      intro v writes none truthy
      obtain ⟨cause, unread⟩ := rejected_of_noMapping once writes none truthy
      exact ⟨cause, by rw [unread]; rfl⟩
    falsyAge := fun v writes falsy => (ofEntries_withoutAge once writes falsy).symm }

/-- A request with a truth value in the place of the age. -/
def falseAge : Entries Scalar Value :=
  [(.text "tier", .text "low"), (.text "mode", .text "direct"), (.text "contextAge", .bool false)]

set_option maxRecDepth 4000 in
theorem isWrittenOnce_falseAge :
  IsWrittenOnce falseAge
  := ⟨by decide, by decide⟩

theorem Codex.answersWritten_falseAge :
  ∃ c, ofValue smallDocument = .ok c ∧ IsWrittenOnce falseAge
    ∧ c.AnswersWritten falseAge
      (c.evaluateWire (.map falseAge) (none : Option (Sink Unit)) .null ()).1
  := by
  obtain ⟨c, loaded⟩ := exists_of_isOk isOk_smallDocument
  exact ⟨c, loaded, isWrittenOnce_falseAge,
    evaluateWire_written loaded isWrittenOnce_falseAge none .null ()⟩

/-- A truth value is no mapping, but a request that gives one for its age is answered, and answered
as if it gave none. -/
theorem Codex.answered_falseAge :
  ∃ c o, ofValue smallDocument = .ok c ∧ IsWrittenOnce falseAge
    ∧ Writes falseAge spellings.age (.bool false)
    ∧ (c.evaluateWire (.map falseAge) (none : Option (Sink Unit)) .null ()).1 = .ok o
    ∧ (c.evaluateWire (.map (withoutAge falseAge)) (none : Option (Sink Unit)) .null ()).1 = .ok o
  := by
  have computed : passes (fun c =>
      (c.evaluateWire (.map falseAge) (none : Option (Sink Unit)) .null ()).1.isOk)
      (ofValue smallDocument) = true := by decide +kernel
  obtain ⟨c, loaded, isOk⟩ := exists_of_passes computed
  obtain ⟨o, answered⟩ := exists_of_isOk isOk
  have writes : Writes falseAge spellings.age (.bool false) :=
    ⟨(.text "contextAge", .bool false), by simp [falseAge], rfl, rfl⟩
  refine ⟨c, o, loaded, isWrittenOnce_falseAge, writes, answered, ?_⟩
  rw [evaluateWire_fst, ofEntries_withoutAge isWrittenOnce_falseAge writes rfl, ← evaluateWire_fst]
  exact answered

end ReflexPolicy
