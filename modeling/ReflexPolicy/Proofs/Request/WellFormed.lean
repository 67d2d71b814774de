import ReflexPolicy.Proofs.Binary64.Whole
import ReflexPolicy.Proofs.Request.Normal

/-!
# Well-formed drafts

A draft is turned into a request exactly when it is well-formed, and the request then carries what
the draft holds, with numbers of the same value.  A draft that is not well-formed is rejected, with
two exceptions: a score may be a whole number beyond the format, on which the check itself breaks
off, and what is rejected may be a whole number with so many digits that the rejection cannot be
worded.
-/

namespace ReflexPolicy

/-! ### Well-formed fields -/

/-- A score: a number of the unit interval, be it whole or binary. -/
def Value.IsScore (v : Value) : Prop :=
  ∃ n, v = .number n ∧ Number.le (.whole 0) n = true ∧ n.le (.whole 1) = true

/-- A number of things: a number without a fraction that is not below zero, be it whole or binary. -/
def Value.IsCount (v : Value) : Prop :=
  ∃ n, ∃ k : Nat, v = .number n ∧ n.equals (.whole k) = true

/-- Every field of the draft holds what it should. -/
structure Draft.WellFormed (d : Draft) : Prop where
  tier : ∃ t, Tier.parse d.tier = .ok t
  mode : ∃ m, Mode.parse d.mode = .ok m
  citation : ∃ o, CitationOverride.parse d.citation = .ok o
  omission : ∃ o, OmissionOverride.parse d.omission = .ok o
  scores : ∃ es, d.scores = .map es ∧ ∀ e ∈ es, (∃ id, e.1 = .text id) ∧ e.2.IsScore
  age : ∃ turns tokens, d.age = .counts turns tokens ∧ turns.IsCount ∧ tokens.IsCount
  external : ∃ b, d.externalClaim = .bool b
  profile : ∃ name, d.profile = .text name ∧ name ≠ ""

/-- The request carries what the draft holds: the words that it spells, the same scores and counts
under the same names, and the rest as it is. -/
structure Draft.Carries (d : Draft) (r : Request) : Prop where
  tier : Tier.parse d.tier = .ok r.tier
  mode : Mode.parse d.mode = .ok r.mode
  citation : CitationOverride.parse d.citation = .ok r.citation
  omission : OmissionOverride.parse d.omission = .ok r.omission
  scores : ∃ es, d.scores = .map es ∧ List.Forall₂ (fun e s => e.1 = .text s.1
    ∧ ∃ n, e.2 = .number n ∧ n.equals (.float s.2) = true) es r.scores
  age : ∃ turns tokens, d.age = .counts (.number turns) (.number tokens)
    ∧ turns.equals (.whole r.age.turns) = true ∧ tokens.equals (.whole r.age.tokens) = true
  external : d.externalClaim = .bool r.externalClaim
  profile : d.profile = .text r.profile

/-! ### Scores -/

theorem checkScore_eq_ok_iff {id v : Value} {x : Binary64} :
  checkScore id v = .ok x ↔ ∃ n, v = .number n ∧ n.toBinary64? = some x ∧ x.isUnit = true
  := by
  rw [checkScore]
  cases number : v.number? with
  | none =>
    refine iff_of_false (by simp) ?_
    rintro ⟨n, rfl, -⟩
    cases number
  | some n =>
    obtain rfl := Value.number?_eq_some_iff.mp number
    simp only [Value.scalar.injEq, Scalar.number.injEq, exists_eq_left']
    cases n.toBinary64? with
    | none => exact iff_of_false (by simp) (by simp)
    | some y =>
      simp only [Option.some.injEq]
      split
      · rename_i unit
        rw [Except.ok.injEq]
        exact (and_iff_left_of_imp fun same => same ▸ unit).symm
      · rename_i not_unit
        refine iff_of_false (by simp) ?_
        rintro ⟨rfl, unit⟩
        exact not_unit unit

/-- The check of a score keeps its value. -/
theorem equals_of_checkScore {id v : Value} {x : Binary64} (checked : checkScore id v = .ok x) :
  v.IsScore ∧ ∃ n, v = .number n ∧ n.equals (.float x) = true
  := by
  obtain ⟨n, rfl, given, unit⟩ := checkScore_eq_ok_iff.mp checked
  obtain ⟨nonneg, le_one⟩ := Number.unit_of_toBinary64? given unit
  obtain ⟨y, given', same⟩ := Number.toBinary64?_of_unit nonneg le_one
  rw [given] at given'
  cases given'
  exact ⟨⟨n, rfl, nonneg, le_one⟩, n, rfl, same⟩

theorem Value.IsScore.checked {v : Value} (score : v.IsScore) (id : Value) :
  ∃ x, checkScore id v = .ok x
  := by
  obtain ⟨n, rfl, nonneg, le_one⟩ := score
  obtain ⟨x, given, same⟩ := Number.toBinary64?_of_unit nonneg le_one
  use x
  rw [checkScore_eq_ok_iff]
  exact ⟨n, rfl, given, (Number.isUnit_iff same).mpr ⟨nonneg, le_one⟩⟩

/-- The scores pass one by one, each under its text. -/
theorem forall₂_of_checkScores {es : List (Scalar × Value)} {scores : Entries Text Binary64}
    (checked : checkScores es = .ok scores) :
  List.Forall₂ (fun e s => e.1 = .text s.1 ∧ checkScore (.text s.1) e.2 = .ok s.2) es scores
  := by
  induction es generalizing scores with
  | nil =>
    cases checked
    exact .nil
  | cons e rest ih =>
    obtain ⟨k, v⟩ := e
    cases k with
    | text id =>
      simp only [checkScores, bind_eq_ok, pure_eq_ok] at checked
      obtain ⟨x, first, others, checked, rfl⟩ := checked
      exact .cons ⟨rfl, first⟩ (ih checked)
    | _ => cases checked

theorem checkScores_of_scores {es : List (Scalar × Value)}
    (scores : ∀ e ∈ es, (∃ id, e.1 = .text id) ∧ e.2.IsScore) :
  ∃ checked, checkScores es = .ok checked
  := by
  induction es with
  | nil => exact ⟨[], rfl⟩
  | cons e rest ih =>
    obtain ⟨k, v⟩ := e
    obtain ⟨first, later⟩ := List.forall_mem_cons.mp scores
    obtain ⟨⟨id, rfl⟩, score⟩ := first
    obtain ⟨x, first⟩ := score.checked (.text id)
    obtain ⟨others, checked⟩ := ih later
    use (id, x) :: others
    rw [checkScores, first, checked]
    rfl

/-! ### Counts -/

theorem Number.equals_whole_iff {m k : Int} :
  (whole m).equals (whole k) = true ↔ m = k
  := by
  rw [equals, Bool.and_eq_true, whole_le_whole_iff, whole_le_whole_iff]
  omega

theorem Number.equals_float_whole_iff {x : Binary64} {k : Int} :
  (float x).equals (whole k) = true ↔ x.whole? = some k
  := by
  rw [Binary64.whole?_eq_some_iff, equals_iff]
  simp [extended?]

/-- A count passes as the natural number of the same value. -/
theorem checkCount_eq_ok_iff {name : String} {v : Value} {k : Nat} :
  checkCount name v = .ok k ↔ ∃ n, v = .number n ∧ n.equals (.whole k) = true
  := by
  rw [checkCount.eq_def]
  split
  · rename_i m
    simp only [Value.scalar.injEq, Scalar.number.injEq, exists_eq_left', Number.equals_whole_iff]
    split
    · rw [Except.ok.injEq]
      omega
    · refine iff_of_false (by simp) ?_
      omega
  · rename_i x
    simp only [Value.scalar.injEq, Scalar.number.injEq, exists_eq_left',
      Number.equals_float_whole_iff]
    cases x.whole? with
    | none => exact iff_of_false (by simp) (by simp)
    | some m =>
      rw [Option.some.injEq]
      dsimp only
      split
      · rw [Except.ok.injEq]
        omega
      · refine iff_of_false (by simp) ?_
        omega
  · rename_i not_int not_float
    refine iff_of_false (by simp) ?_
    rintro ⟨n, rfl, -⟩
    cases n with
    | whole m => exact not_int m rfl
    | float x => exact not_float x rfl

theorem checkAge_eq_ok_iff {a : DraftAge} {age : ContextAge} :
  checkAge a = .ok age ↔ ∃ turns tokens, a = .counts (.number turns) (.number tokens)
    ∧ turns.equals (.whole age.turns) = true ∧ tokens.equals (.whole age.tokens) = true
  := by
  cases a with
  | other v =>
    constructor
    · intro checked
      cases checked
    · rintro ⟨_, _, ⟨⟩, -⟩
  | counts turns tokens =>
    simp only [checkAge, bind_eq_ok, pure_eq_ok, checkCount_eq_ok_iff, DraftAge.counts.injEq]
    constructor
    · rintro ⟨m, ⟨x, rfl, hx⟩, n, ⟨y, rfl, hy⟩, rfl⟩
      exact ⟨x, y, ⟨rfl, rfl⟩, hx, hy⟩
    · rintro ⟨x, y, ⟨rfl, rfl⟩, hx, hy⟩
      exact ⟨age.turns, ⟨x, rfl, hx⟩, age.tokens, ⟨y, rfl, hy⟩, rfl⟩

/-! ### The other fields -/

theorem checkExternal_eq_ok_iff {v : Value} {b : Bool} :
  checkExternal v = .ok b ↔ v = .bool b
  := by
  rw [checkExternal.eq_def]
  split
  · simp
  · rename_i not_bool
    exact iff_of_false (by simp) (not_bool b)

/-! ### Drafts -/

/-- What passes carries what the draft holds. -/
theorem Draft.Passes.carries {d : Draft} {r : Request} (passes : d.Passes r) :
  d.Carries r
  where
    tier := passes.tier
    mode := passes.mode
    citation := passes.citation
    omission := passes.omission
    scores := by
      obtain ⟨es, entries, checked⟩ := passes.scores
      refine ⟨es, Value.entries?_eq_some_iff.mp entries, ?_⟩
      apply (forall₂_of_checkScores checked).imp
      rintro e s ⟨key, checked⟩
      exact ⟨key, (equals_of_checkScore checked).2⟩
    age := checkAge_eq_ok_iff.mp passes.age
    external := checkExternal_eq_ok_iff.mp passes.external
    profile := (checkProfile_eq_ok_iff.mp passes.profile).1

theorem Draft.Passes.wellFormed {d : Draft} {r : Request} (passes : d.Passes r) :
  d.WellFormed
  where
    tier := ⟨_, passes.tier⟩
    mode := ⟨_, passes.mode⟩
    citation := ⟨_, passes.citation⟩
    omission := ⟨_, passes.omission⟩
    scores := by
      obtain ⟨es, entries, checked⟩ := passes.scores
      refine ⟨es, Value.entries?_eq_some_iff.mp entries, ?_⟩
      intro e mem
      have each := forall₂_of_checkScores checked
      obtain ⟨s, -, key, checked⟩ := Codex.exists_of_forall₂ each.flip mem
      exact ⟨⟨s.1, key⟩, (equals_of_checkScore checked).1⟩
    age := by
      obtain ⟨turns, tokens, counts, turnsCount, tokensCount⟩ := checkAge_eq_ok_iff.mp passes.age
      exact ⟨_, _, counts, ⟨turns, _, rfl, turnsCount⟩, ⟨tokens, _, rfl, tokensCount⟩⟩
    external := ⟨_, checkExternal_eq_ok_iff.mp passes.external⟩
    profile := ⟨_, checkProfile_eq_ok_iff.mp passes.profile⟩

theorem Draft.WellFormed.passes {d : Draft} (wellFormed : d.WellFormed) :
  ∃ r, d.Passes r
  := by
  obtain ⟨⟨tier, parsedTier⟩, ⟨mode, parsedMode⟩, ⟨citation, parsedCitation⟩,
    ⟨omission, parsedOmission⟩, ⟨es, entries, scores⟩, ⟨_, _, counts, ⟨turns, m, rfl, turnsCount⟩,
    ⟨tokens, n, rfl, tokensCount⟩⟩, ⟨external, claimed⟩, ⟨name, named⟩⟩ := wellFormed
  obtain ⟨checked, passed⟩ := checkScores_of_scores scores
  let r : Request := {
    tier := tier
    mode := mode
    scores := checked
    age := { turns := m, tokens := n }
    externalClaim := external
    citation := citation
    omission := omission
    profile := name }
  use r
  exact {
    tier := parsedTier
    mode := parsedMode
    citation := parsedCitation
    omission := parsedOmission
    scores := ⟨es, Value.entries?_eq_some_iff.mpr entries, passed⟩
    age := checkAge_eq_ok_iff.mpr ⟨turns, tokens, counts, turnsCount, tokensCount⟩
    external := checkExternal_eq_ok_iff.mpr claimed
    profile := checkProfile_eq_ok_iff.mpr named }

/-! ### Rejections that can be worded -/

/-- Whatever the draft holds can be written. -/
structure Draft.IsWritable (d : Draft) : Prop where
  tier : d.tier.isWritable = true
  mode : d.mode.isWritable = true
  citation : d.citation.isWritable = true
  omission : d.omission.isWritable = true
  scores : d.scores.isWritable = true
  age : ∀ turns tokens, d.age = .counts turns tokens →
    turns.isWritable = true ∧ tokens.isWritable = true
  external : d.externalClaim.isWritable = true
  profile : d.profile.isWritable = true

/-- A rejection that can be worded is what the caller meets. -/
def Fault.IsWordable (e : Fault) : Prop := e.reported = e

theorem Fault.isWordable_rejected {cause : Rejection} (writable : cause.isWritable = true) :
  (rejected cause).IsWordable
  := if_pos writable

theorem wordable_ofRejection {α : Type} {x : Except Rejection α}
    (h : FailsAs (fun cause => cause.isWritable = true) x) :
  FailsAs Fault.IsWordable (Fault.ofRejection x)
  := by
  cases x with
  | ok a => exact failsAs_ok
  | error cause => exact failsAs_error (Fault.isWordable_rejected (h cause rfl))

section

variable {v : Value} (writable : v.isWritable = true)

include writable

/-! A check quotes nothing but the value that it looks at. -/

theorem wordable_tier :
  FailsAs (fun cause => cause.isWritable = true) (Tier.parse v)
  := by
  intro r unread
  rw [Tier.rejection_of_parse unread]
  exact writable

theorem wordable_mode :
  FailsAs (fun cause => cause.isWritable = true) (Mode.parse v)
  := by
  intro r unread
  rw [Mode.rejection_of_parse unread]
  exact writable

theorem wordable_citation :
  FailsAs (fun cause => cause.isWritable = true) (CitationOverride.parse v)
  := by
  intro r unread
  rw [CitationOverride.rejection_of_parse unread]
  exact writable

theorem wordable_omission :
  FailsAs (fun cause => cause.isWritable = true) (OmissionOverride.parse v)
  := by
  intro r unread
  rw [OmissionOverride.rejection_of_parse unread]
  exact writable

theorem wordable_score (id : Text) :
  FailsAs Fault.IsWordable (checkScore (.text id) v)
  := by
  rw [checkScore]
  split
  · exact failsAs_error (Fault.isWordable_rejected writable)
  · split
    · exact failsAs_error rfl
    · split
      · exact failsAs_ok
      · exact failsAs_error (Fault.isWordable_rejected writable)

theorem wordable_count (name : String) :
  FailsAs (fun cause => cause.isWritable = true) (checkCount name v)
  := by
  rw [checkCount.eq_def]
  split
  · split
    · exact failsAs_ok
    · exact failsAs_error writable
  · split
    · exact failsAs_error writable
    · split
      · exact failsAs_ok
      · exact failsAs_error writable
  · exact failsAs_error writable

theorem wordable_external :
  FailsAs (fun cause => cause.isWritable = true) (checkExternal v)
  := by
  rw [checkExternal.eq_def]
  split
  · exact failsAs_ok
  · exact failsAs_error writable

theorem wordable_profile :
  FailsAs (fun cause => cause.isWritable = true) (checkProfile v)
  := by
  rw [checkProfile.eq_def]
  split
  · split
    · exact failsAs_error rfl
    · exact failsAs_ok
  · exact failsAs_error writable

end

theorem wordable_scores {es : List (Scalar × Value)}
    (writable : Value.entriesAreWritable es = true) :
  FailsAs Fault.IsWordable (checkScores es)
  := by
  induction es with
  | nil => exact failsAs_ok
  | cons e rest ih =>
    obtain ⟨k, v⟩ := e
    simp only [Value.entriesAreWritable, Bool.and_eq_true] at writable
    obtain ⟨⟨keyWritable, valueWritable⟩, restWritable⟩ := writable
    cases k with
    | text id =>
      apply failsAs_bind (wordable_score valueWritable id)
      intro x _
      exact failsAs_bind (ih restWritable) fun _ _ => failsAs_ok
    | _ => exact failsAs_error (Fault.isWordable_rejected keyWritable)

theorem wordable_age {a : DraftAge} (writable : ∀ turns tokens, a = .counts turns tokens →
    turns.isWritable = true ∧ tokens.isWritable = true) :
  FailsAs (fun cause => cause.isWritable = true) (checkAge a)
  := by
  cases a with
  | other v => exact failsAs_error rfl
  | counts turns tokens =>
    obtain ⟨turnsWritable, tokensWritable⟩ := writable turns tokens rfl
    apply failsAs_bind (wordable_count turnsWritable _)
    intro m _
    exact failsAs_bind (wordable_count tokensWritable _) fun _ _ => failsAs_ok

/-- The check of a draft that can be written ends in no rejection that cannot be worded. -/
theorem Draft.IsWritable.wordable {d : Draft} (writable : d.IsWritable) :
  FailsAs Fault.IsWordable d.validate
  := by
  apply failsAs_bind (wordable_ofRejection (wordable_tier writable.tier))
  intro tier _
  apply failsAs_bind (wordable_ofRejection (wordable_mode writable.mode))
  intro mode _
  apply failsAs_bind (wordable_ofRejection (wordable_citation writable.citation))
  intro citation _
  apply failsAs_bind (wordable_ofRejection (wordable_omission writable.omission))
  intro omission _
  split
  case h_2 => exact failsAs_error rfl
  rename_i es entries
  have written := writable.scores
  rw [Value.entries?_eq_some_iff.mp entries, Value.isWritable] at written
  change FailsAs Fault.IsWordable (checkScores es >>= _)
  apply failsAs_bind (wordable_scores written)
  intro scores _
  apply failsAs_bind (wordable_ofRejection (wordable_age writable.age))
  intro age _
  apply failsAs_bind (wordable_ofRejection (wordable_external writable.external))
  intro external _
  apply failsAs_bind (wordable_ofRejection (wordable_profile writable.profile))
  intro profile _
  exact failsAs_ok

/-! ### How the check of a draft ends -/

/-- How the check of a draft ends: with a request for the drafts that are well-formed, and in a
rejection for the others, unless a score is beyond the format or the rejection cannot be worded. -/
structure Draft.Settles (d : Draft) : Prop where
  accepted : (∃ r, d.validate = .ok r) ↔ d.WellFormed
  carried : ∀ r, d.validate = .ok r → d.Carries r
  failed : ∀ e, d.validate = .error e → (∃ cause, e.reported = .rejected cause)
    ∨ e.reported = .tooLarge ∧ d.Overflows
    ∨ e.reported = .misuse .tooLong ∧ ¬ d.IsWritable
  overflowing : d.Overflows → d.validate = .error .tooLarge

theorem Draft.validate_settles (d : Draft) :
  d.Settles
  where
    accepted := by
      simp only [Draft.validate_eq_ok_iff]
      constructor
      · rintro ⟨r, passes⟩
        exact passes.wellFormed
      · exact Draft.WellFormed.passes
    carried := fun r valid => (Draft.validate_eq_ok_iff.mp valid).carries
    failed := by
      intro e failed
      obtain ⟨cause, rfl⟩ | ⟨rfl, overflows⟩ := rejected_or_of_validate failed
      · by_cases writable : cause.isWritable = true
        · exact .inl ⟨cause, if_pos writable⟩
        · refine .inr (.inr ⟨if_neg writable, ?_⟩)
          intro all
          have wordable : (Fault.rejected cause).reported = .rejected cause := all.wordable _ failed
          rw [Fault.reported, if_neg writable] at wordable
          cases wordable
      · exact .inr (.inl ⟨rfl, overflows⟩)
    overflowing := Draft.Overflows.validate

/-- A draft with a score that is so large that there is no binary64 number near it. -/
def hugeDraft : Draft where
  tier := .text "low"
  mode := .text "direct"
  scores := .map [(.text "claim", .int (10 ^ 400))]
  age := .fresh
  externalClaim := .bool false
  citation := .text "auto"
  omission := .null
  profile := .text "default"

theorem overflows_hugeDraft :
  hugeDraft.Overflows
  where
    tier := ⟨.low, rfl⟩
    mode := ⟨.direct, rfl⟩
    citation := ⟨.auto, rfl⟩
    omission := ⟨none, rfl⟩
    scores := by
      refine ⟨_, rfl, [], "claim", 10 ^ 400, [], rfl, ⟨[], rfl⟩, ?_⟩
      apply Binary64.ofInt?_of_le
      decide +kernel

/-- A score outside the unit interval is not always rejected, even if it can be written. -/
theorem not_rejected_hugeDraft :
  ¬ hugeDraft.WellFormed ∧ hugeDraft.IsWritable
    ∧ ∃ e, hugeDraft.validate = .error e ∧ ∀ cause, e.reported ≠ .rejected cause
  := by
  have failed := overflows_hugeDraft.validate
  refine ⟨?_, ?_, .tooLarge, failed, ?_⟩
  · intro wellFormed
    obtain ⟨r, passes⟩ := wellFormed.passes
    rw [Draft.validate_eq_ok_iff.mpr passes] at failed
    cases failed
  · exact {
      tier := rfl
      mode := rfl
      citation := rfl
      omission := rfl
      scores := by decide +kernel
      age := by
        rintro _ _ ⟨⟩
        exact ⟨by decide +kernel, by decide +kernel⟩
      external := rfl
      profile := rfl }
  · intro cause same
    cases same

end ReflexPolicy
