import ReflexPolicy.Handshake
import ReflexPolicy.Proofs.Binary64.Whole
import ReflexPolicy.Proofs.Evaluation.Answer

/-!
# Changes of single fields

A change that can be read is taken; one that cannot be read is refused: the field keeps its value,
and the refusal is reported.  `Refuses` says which values of which options are refused.
-/

namespace ReflexPolicy.Handshake

/-! ### Single changes -/

section

variable {α : Type} {parse : Value → Except Rejection α} {v : Option Value} {base : α}

/-- The refusal of a change whose value cannot be read. -/
def refusals (parse : Value → Except Rejection α) : Option Value → List Rejection
  | none => []
  | some v => match parse v with
    | .ok _ => []
    | .error r => [r]

theorem mem_refusals_iff {r : Rejection} :
  r ∈ refusals parse v ↔ ∃ w, v = some w ∧ parse w = .error r
  := by
  cases v with
  | none => simp [refusals]
  | some w =>
    simp only [Option.some.injEq, exists_eq_left', refusals]
    cases parse w <;> simp [eq_comm]

/-- A change reports its refusal, whatever it keeps. -/
theorem reports_change :
  (change parse v base).reports = refusals parse v
  := by
  cases v with
  | none => rfl
  | some w =>
    rw [change, refusals]
    cases parse w <;> rfl

/-- A change that is read is taken. -/
theorem change_of_read {w : Value} {a : α} (read : parse w = .ok a) :
  change parse (some w) base = { value := a, reports := [] }
  := by rw [change, read]

theorem refusals_of_read {w : Value} {a : α} (read : parse w = .ok a) :
  refusals parse (some w) = []
  := by rw [refusals, read]

/-- A change that is refused keeps what was there. -/
theorem change_of_refused {w : Value} {r : Rejection} (refused : parse w = .error r) :
  change parse (some w) base = { value := base, reports := [r] }
  := by rw [change, refused]

/-- A change that is made again changes nothing. -/
theorem value_change_change :
  (change parse v (change parse v base).value).value = (change parse v base).value
  := by
  cases v with
  | none => rfl
  | some w =>
    rw [change, change]
    cases parse w <;> rfl

/-- What comes of a change is what was there, or what its value is read as. -/
theorem value_change_cases (parse : Value → Except Rejection α) (v : Option Value) (base : α) :
  (change parse v base).value = base
    ∨ ∃ w a, v = some w ∧ parse w = .ok a ∧ (change parse v base).value = a
  := by
  cases v with
  | none => exact .inl rfl
  | some w =>
    rw [change]
    cases parsed : parse w with
    | ok a => exact .inr ⟨w, a, rfl, parsed, rfl⟩
    | error r => exact .inl rfl

theorem quoted_eq_ok_iff {changed changed' : Change α} :
  changed.quoted = .ok changed'
    ↔ (∀ r ∈ changed.reports, r.isWritable = true) ∧ changed' = changed
  := by
  rw [Change.quoted, ← List.all_eq_true]
  split
  · rename_i writable
    simp [writable, eq_comm]
  · rename_i not_writable
    simp [not_writable]

theorem quoted_eq_error_iff {changed : Change α} {e : Fault} :
  changed.quoted = .error e
    ↔ (∃ r ∈ changed.reports, r.isWritable = false) ∧ e = .misuse .tooLong
  := by
  rw [Change.quoted]
  split
  · rename_i writable
    refine iff_of_false (by simp) ?_
    rintro ⟨⟨r, mem, unwritable⟩, -⟩
    rw [List.all_eq_true.mp writable r mem] at unwritable
    cases unwritable
  · rename_i not_writable
    have unwritable : ∃ r ∈ changed.reports, r.isWritable = false := by simpa using not_writable
    rw [Except.error.injEq, and_iff_right unwritable, eq_comm]

end

/-! ### The profile and the confidence -/

/-- The profile of a codex that a value names, or why there is none. -/
def parseProfile (c : Codex) (v : Value) : Except Rejection Scalar :=
  match v.key?.filter c.hasProfile with
  | some key => .ok key
  | none => .error (.unknownProfile v)

variable {c : Codex}

theorem parseProfile_eq_ok_iff {v : Value} {key : Scalar} :
  parseProfile c v = .ok key ↔ v.key? = some key ∧ c.hasProfile key = true
  := by
  rw [← Option.filter_eq_some_iff, parseProfile]
  cases v.key?.filter c.hasProfile <;> simp

theorem parseProfile_eq_error_iff {v : Value} {r : Rejection} :
  parseProfile c v = .error r
    ↔ (∀ key, v.key? = some key → c.hasProfile key = false) ∧ r = .unknownProfile v
  := by
  have unknown : v.key?.filter c.hasProfile = none
      ↔ ∀ key, v.key? = some key → c.hasProfile key = false := by
    cases v.key? <;> simp [Option.filter]
  rw [← unknown, parseProfile]
  cases v.key?.filter c.hasProfile <;> simp [eq_comm]

theorem parseConfidence_eq_error_iff {v : Value} {r : Rejection} :
  parseConfidence v = .error r ↔ confidence? v = none ∧ r = .confidenceOutside v
  := by
  rw [parseConfidence]
  cases confidence? v <;> simp [eq_comm]

theorem keyOf_eq_ok_iff {v : Value} {key : Scalar} :
  keyOf v = .ok key ↔ v.key? = some key
  := by
  rw [keyOf]
  cases v.key? <;> simp

theorem keyOf_eq_error_iff {v : Value} {e : Fault} :
  keyOf v = .error e ↔ v.key? = none ∧ e = .mismatch (.noKey v.kind)
  := by
  rw [keyOf]
  cases v.key? <;> simp [eq_comm]

/-- A value that names a profile can be looked up, and it can be written if no profile has that
name. -/
def NamesProfile (c : Codex) (v : Value) : Prop :=
  ∃ key, v.key? = some key ∧ (c.hasProfile key = true ∨ v.isWritable = true)

theorem changeProfile_eq_ok_iff {v : Option Value} {base : Scalar} {changed : Change Scalar} :
  changeProfile c v base = .ok changed
    ↔ (∀ w, v = some w → NamesProfile c w) ∧ changed = change (parseProfile c) v base
  := by
  cases v with
  | none =>
    rw [changeProfile, pure_eq_ok, eq_comm]
    simp [change]
  | some w =>
    simp only [changeProfile, bind_eq_ok, Option.some.injEq, forall_eq', NamesProfile]
    cases keyed : w.key? with
    | none => simp [keyOf, keyed]
    | some key =>
      simp only [keyOf, keyed, Except.ok.injEq, exists_eq_left', Option.some.injEq]
      cases known : c.hasProfile key with
      | true =>
        have read : parseProfile c w = .ok key := parseProfile_eq_ok_iff.mpr ⟨keyed, known⟩
        rw [if_pos rfl, pure_eq_ok, eq_comm]
        simp [change, read]
      | false =>
        have refused : parseProfile c w = .error (.unknownProfile w) := by
          rw [parseProfile_eq_error_iff, keyed]
          simp [known]
        rw [change_of_refused refused]
        simp [quoted_eq_ok_iff, Rejection.isWritable]

theorem changeProfile_eq_error_iff {v : Option Value} {base : Scalar} {e : Fault} :
  changeProfile c v base = .error e
    ↔ ∃ w, v = some w ∧ (w.key? = none ∧ e = .mismatch (.noKey w.kind)
      ∨ (∃ key, w.key? = some key ∧ c.hasProfile key = false) ∧ w.isWritable = false
        ∧ e = .misuse .tooLong)
  := by
  cases v with
  | none => simp [changeProfile, pure, Except.pure]
  | some w =>
    simp only [changeProfile, bind_eq_error, keyOf_eq_ok_iff, keyOf_eq_error_iff,
      Option.some.injEq, exists_eq_left']
    apply or_congr_right
    rw [← exists_and_right]
    apply exists_congr
    intro key
    cases known : c.hasProfile key <;>
      simp [quoted_eq_error_iff, Rejection.isWritable, pure, Except.pure]

theorem one_lt_tenTo {exponent : Nat} (positive : exponent ≠ 0) :
  1 < tenTo exponent
  := Nat.one_lt_pow positive (by decide)

/-- A confidence is one of the unit interval, and so a number that can be written. -/
theorem isWritable_of_confidence? {v : Value} {x : Binary64} (given : confidence? v = some x) :
  v.isWritable = true
  := by
  rw [confidence?.eq_def] at given
  split at given
  · cases given
  rename_i n number
  obtain rfl := Value.number?_eq_some_iff.mp number
  cases n with
  | float y => rfl
  | whole k =>
    split at given
    · cases given
    rename_i y inside
    split at given
    · rename_i unit
      obtain ⟨nonneg, le_one⟩ := Number.unit_of_toBinary64? inside unit
      rw [Number.whole_le_whole_iff] at nonneg le_one
      have few : k.natAbs < tenTo Number.digitLimit :=
        Nat.lt_of_le_of_lt (by omega : k.natAbs ≤ 1) (one_lt_tenTo (by decide))
      simpa [Value.isWritable, Scalar.isWritable, Number.isWritable] using few
    · cases given

theorem none_of_unwritable {v : Value} (unwritable : v.isWritable = false) :
  confidence? v = none
  := by
  cases given : confidence? v with
  | none => rfl
  | some x =>
    rw [isWritable_of_confidence? given] at unwritable
    cases unwritable

theorem quoted_confidence_eq_ok_iff {v : Option Value} {base : Binary64}
    {changed : Change Binary64} :
  (change parseConfidence v base).quoted = .ok changed
    ↔ (∀ w, v = some w → w.isWritable = true) ∧ changed = change parseConfidence v base
  := by
  rw [quoted_eq_ok_iff, reports_change]
  apply and_congr_left'
  constructor
  · rintro writable w rfl
    cases given : confidence? w with
    | some x => exact isWritable_of_confidence? given
    | none =>
      have refused := parseConfidence_eq_error_iff.mpr ⟨given, rfl⟩
      exact writable _ (mem_refusals_iff.mpr ⟨w, rfl, refused⟩)
  · intro writable r mem
    obtain ⟨w, rfl, refused⟩ := mem_refusals_iff.mp mem
    obtain ⟨-, rfl⟩ := parseConfidence_eq_error_iff.mp refused
    exact writable w rfl

theorem quoted_confidence_eq_error_iff {v : Option Value} {base : Binary64} {e : Fault} :
  (change parseConfidence v base).quoted = .error e
    ↔ ∃ w, v = some w ∧ w.isWritable = false ∧ e = .misuse .tooLong
  := by
  rw [quoted_eq_error_iff, reports_change]
  constructor
  · rintro ⟨⟨r, mem, unwritable⟩, rfl⟩
    obtain ⟨w, rfl, refused⟩ := mem_refusals_iff.mp mem
    obtain ⟨-, rfl⟩ := parseConfidence_eq_error_iff.mp refused
    exact ⟨w, rfl, unwritable, rfl⟩
  · rintro ⟨w, rfl, unwritable, rfl⟩
    have refused := parseConfidence_eq_error_iff.mpr ⟨none_of_unwritable unwritable, rfl⟩
    exact ⟨⟨_, mem_refusals_iff.mpr ⟨w, rfl, refused⟩, unwritable⟩, rfl⟩

/-- Whatever is asked for, some confidence is enforced. -/
theorem enforce_of_wellFormed (wellFormed : c.WellFormed) (tier : Tier) (mode : Mode)
    (requested : Option Binary64) :
  ∃ x, enforce c tier mode requested = .ok x
  := by
  obtain ⟨floor, resolved⟩ := Codex.minConfidence_of_wellFormed wellFormed tier mode
  rw [enforce, resolved]
  cases requested <;> exact ⟨_, rfl⟩

/-! ### Options -/

theorem option?_eq_some_iff {options : Entries Text Value} {name : Text} {v : Value} :
  option? options name = some v ↔ Entries.get? options name = some v ∧ v.isNull = false
  := by
  rw [option?, Option.filter_eq_some_iff]
  simp

/-- The refusals of the words of some options. -/
def wordRefusals (options : Entries Text Value) : List Rejection :=
  refusals Mode.parse (option? options "mode")
    ++ refusals Tier.parse (option? options "tier")
    ++ refusals CitationOverride.parse (option? options "cite_policy")
    ++ refusals OmissionOverride.parse (Entries.get? options "omission_scan")

/-- A value of an option is refused: it cannot be read, or there is no such option.  An absent value
is none, except for the omission scan, for which it is read. -/
@[mk_iff]
inductive Refuses (c : Codex) : Text → Value → Rejection → Prop where
  | mode {v : Value} {r : Rejection} (given : v.isNull = false)
    (unread : Mode.parse v = .error r) : Refuses c "mode" v r
  | tier {v : Value} {r : Rejection} (given : v.isNull = false)
    (unread : Tier.parse v = .error r) : Refuses c "tier" v r
  | citation {v : Value} {r : Rejection} (given : v.isNull = false)
    (unread : CitationOverride.parse v = .error r) : Refuses c "cite_policy" v r
  | omission {v : Value} {r : Rejection} (unread : OmissionOverride.parse v = .error r) :
    Refuses c "omission_scan" v r
  | profile {v : Value} {r : Rejection} (given : v.isNull = false)
    (unread : parseProfile c v = .error r) : Refuses c "reflex_profile" v r
  | confidence {v : Value} {r : Rejection} (given : v.isNull = false)
    (unread : parseConfidence v = .error r) : Refuses c "min_confidence" v r
  | unknown {name : Text} {v : Value} (unknown : name ∉ optionNames) :
    Refuses c name v (.unknownField name)

/-- What the refusal of a value says, for each option. -/
def refusalsOf (v : Value) : List (Text × Rejection) :=
  [("mode", .unknownMode v), ("tier", .unknownTier v), ("cite_policy", .unknownCitation v),
    ("omission_scan", .unknownOmission v), ("reflex_profile", .unknownProfile v),
    ("min_confidence", .confidenceOutside v)]

/-- A refusal names the option and quotes the value. -/
theorem Refuses.mem_refusalsOf {name : Text} {v : Value} {r : Rejection}
    (refuses : Refuses c name v r) :
  (name, r) ∈ refusalsOf v ∨ name ∉ optionNames ∧ r = .unknownField name
  := by
  cases refuses with
  | mode _ unread => simp [refusalsOf, Mode.rejection_of_parse unread]
  | tier _ unread => simp [refusalsOf, Tier.rejection_of_parse unread]
  | citation _ unread => simp [refusalsOf, CitationOverride.rejection_of_parse unread]
  | omission unread => simp [refusalsOf, OmissionOverride.rejection_of_parse unread]
  | profile _ unread => simp [refusalsOf, (parseProfile_eq_error_iff.mp unread).2]
  | confidence _ unread => simp [refusalsOf, (parseConfidence_eq_error_iff.mp unread).2]
  | unknown unknown => exact .inr ⟨unknown, rfl⟩

end ReflexPolicy.Handshake
