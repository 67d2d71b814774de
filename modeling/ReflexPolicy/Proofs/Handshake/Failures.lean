import ReflexPolicy.Proofs.Handshake.Stability

/-!
# How handshakes fail

Building a handshake is rejected for the first option that is refused, and updating one reports what
it refuses and keeps what was held.  Neither can be had of a value that cannot be looked up as a
profile, nor of a refusal whose value cannot be written; for all other options these are the only
ways in which building and updating end.
-/

namespace ReflexPolicy.Handshake

variable {c : Codex} {options changes : Entries Text Value} {base h : Handshake} {name : Text}
  {v : Value} {r : Rejection} {e f : Fault}

/-! ### Building -/

/-- A refusal quotes nothing but the value that is refused. -/
theorem Refuses.isWritable (refuses : Refuses c name v r) (known : name ∈ optionNames) :
  r.isWritable = v.isWritable
  := by
  obtain quotes | ⟨unknown, -⟩ := refuses.mem_refusalsOf
  · have each : ∀ e ∈ refusalsOf v, e.2.isWritable = v.isWritable := by
      simp [refusalsOf, Rejection.isWritable]
    exact each _ quotes
  · exact absurd known unknown

/-- What is refused in building is refused in updating too. -/
theorem refuses_of_mem_buildRefusals (c : Codex) (mem : r ∈ buildRefusals options) :
  ∃ name v, Entries.get? options name = some v ∧ Refuses c name v r
  := by
  apply mem_reportsOf_iff.mp
  simp only [buildRefusals, List.mem_append] at mem
  simp only [reportsOf, List.mem_append]
  obtain word | confidence := mem
  · exact .inl (.inl (.inr word))
  · exact .inr confidence

/-- How building a handshake of options that there are fails, for the caller. -/
inductive BuildFails (c : Codex) (options : Entries Text Value) : Fault → Prop where
  /-- The first value that is refused is turned away. -/
  | rejected {name : Text} {v : Value} {r : Rejection}
    (first : (buildRefusals options).head? = some r) (given : Entries.get? options name = some v)
    (refuses : Refuses c name v r) (written : v.isWritable = true) :
    BuildFails c options (.rejected r)
  /-- It cannot be written to say so. -/
  | unwritable {name : Text} {v : Value} {r : Rejection}
    (first : (buildRefusals options).head? = some r) (given : Entries.get? options name = some v)
    (refuses : Refuses c name v r) (unwritten : v.isWritable = false) :
    BuildFails c options (.misuse .tooLong)
  /-- Nothing is refused, and the profile cannot be looked up. -/
  | unkeyed (read : buildRefusals options = []) (unkeyed : (wantedProfile c options).key? = none) :
    BuildFails c options (.mismatch (.noKey (wantedProfile c options).kind))

theorem buildFails_iff (names : ∀ name ∈ Entries.keys options, name ∈ optionNames) :
  BuildFails c options f ↔ ∃ e, Declines c options e ∧ e.reported = f
  := by
  have known {name : Text} {v : Value} (given : Entries.get? options name = some v) :
      name ∈ optionNames := names name (Entries.mem_keys_iff.mpr ⟨v, given⟩)
  constructor
  · intro fails
    cases fails with
    | rejected first given refuses written =>
      rw [← refuses.isWritable (known given)] at written
      exact ⟨_, .refused first, if_pos written⟩
    | unwritable first given refuses unwritten =>
      rw [← refuses.isWritable (known given)] at unwritten
      exact ⟨_, .refused first, if_neg (by simp [unwritten])⟩
    | unkeyed read unkeyed => exact ⟨_, .unkeyed read unkeyed, rfl⟩
  · rintro ⟨e, declines, rfl⟩
    cases declines with
    | refused first =>
      obtain ⟨name, v, given, refuses⟩ :=
        refuses_of_mem_buildRefusals c (List.mem_of_head? first)
      rw [Fault.reported, refuses.isWritable (known given)]
      cases written : v.isWritable with
      | true => exact .rejected first given refuses written
      | false => exact .unwritable first given refuses written
    | unkeyed read unkeyed => exact .unkeyed read unkeyed

/-! ### Updating -/

/-- How updating a handshake fails. -/
inductive UpdateFails (c : Codex) (changes : Entries Text Value) : Fault → Prop where
  /-- The profile cannot be looked up. -/
  | unkeyed {v : Value} (given : option? changes "reflex_profile" = some v)
    (unkeyed : v.key? = none) : UpdateFails c changes (.mismatch (.noKey v.kind))
  /-- It is no profile, and it cannot be written to say so. -/
  | unwritableProfile {v : Value} {key : Scalar}
    (given : option? changes "reflex_profile" = some v) (keyed : v.key? = some key)
    (unknown : c.hasProfile key = false) (unwritten : v.isWritable = false) :
    UpdateFails c changes (.misuse .tooLong)
  /-- The confidence is none, and it cannot be written to say so. -/
  | unwritableConfidence {v : Value}
    (keyed : ∀ v, option? changes "reflex_profile" = some v → ∃ key, v.key? = some key)
    (given : option? changes "min_confidence" = some v) (unwritten : v.isWritable = false) :
    UpdateFails c changes (.misuse .tooLong)

theorem update_eq_error_iff (wellFormed : c.WellFormed)
    (names : ∀ name ∈ Entries.keys changes, name ∉ (["codex", "base"] : List Text)) :
  update c base changes = .error e ↔ UpdateFails c changes e
  := by
  rw [update, clash?_eq_none_iff.mpr names]
  simp only [bind_eq_error, changeProfile_eq_error_iff, changeProfile_eq_ok_iff,
    quoted_confidence_eq_error_iff, quoted_confidence_eq_ok_iff]
  constructor
  · rintro (⟨v, given, ⟨unkeyed, rfl⟩ | ⟨⟨key, keyed, unknown⟩, unwritten, rfl⟩⟩
      | ⟨profile, ⟨named, -⟩, ⟨v, given, unwritten, rfl⟩
        | ⟨confidence, -, failed | ⟨x, -, failed⟩⟩⟩)
    · exact .unkeyed given unkeyed
    · exact .unwritableProfile given keyed unknown unwritten
    · refine .unwritableConfidence (fun w given => ?_) given unwritten
      obtain ⟨key, keyed, -⟩ := named w given
      exact ⟨key, keyed⟩
    · -- Whatever confidence is asked for, some is enforced.
      obtain ⟨x, enforced⟩ := enforce_of_wellFormed wellFormed _ _ _
      rw [enforced] at failed
      cases failed
    · cases failed
  · intro fails
    cases fails with
    | unkeyed given unkeyed => exact .inl ⟨_, given, .inl ⟨unkeyed, rfl⟩⟩
    | unwritableProfile given keyed unknown unwritten =>
      exact .inl ⟨_, given, .inr ⟨⟨_, keyed, unknown⟩, unwritten, rfl⟩⟩
    | unwritableConfidence keyed given unwritten =>
      -- The profile comes first, and may itself be what cannot be written.
      by_cases named : ∀ w, option? changes "reflex_profile" = some w → NamesProfile c w
      · exact .inr ⟨_, ⟨named, rfl⟩, .inl ⟨_, given, unwritten, rfl⟩⟩
      · push Not at named
        obtain ⟨w, given', unnamed⟩ := named
        obtain ⟨key, keyed'⟩ := keyed w given'
        refine .inl ⟨w, given', .inr ⟨⟨key, keyed', ?_⟩, ?_, rfl⟩⟩
        · rw [← Bool.not_eq_true]
          exact fun known => unnamed ⟨key, keyed', .inl known⟩
        · rw [← Bool.not_eq_true]
          exact fun written => unnamed ⟨key, keyed', .inr written⟩

/-- What an update keeps of the options that it refuses: their fields are those that were held, and
so is the confidence, unless it has to be raised to the floor of another tier or mode. -/
structure KeepsRefused (c : Codex) (base : Handshake) (changes : Entries Text Value)
    (h : Handshake) : Prop where
  field : ∀ name v r, Entries.get? changes name = some v → Refuses c name v r →
    name ∈ optionNames → name ≠ "min_confidence" → field? h name = field? base name
  confidence : ∀ v r, Entries.get? changes "min_confidence" = some v →
    Refuses c "min_confidence" v r →
    enforce c h.tier h.mode (some base.minConfidence) = .ok h.minConfidence
      ∧ (Held c base → ¬ Moved base h → h.minConfidence = base.minConfidence)

theorem Updates.keepsRefused (wellFormed : c.WellFormed) {reports : List Rejection}
    (updates : Updates c base changes h reports) :
  KeepsRefused c base changes h
  where
    field := by
      intro name v r given refuses _ other
      cases refuses with
      | mode present unread =>
        rw [field?_mode, field?_mode, updates.mode, option?_eq_some_iff.mpr ⟨given, present⟩,
          change_of_refused unread]
      | tier present unread =>
        rw [field?_tier, field?_tier, updates.tier, option?_eq_some_iff.mpr ⟨given, present⟩,
          change_of_refused unread]
      | citation present unread =>
        rw [field?_citation, field?_citation, updates.citation,
          option?_eq_some_iff.mpr ⟨given, present⟩, change_of_refused unread]
      | omission unread =>
        rw [field?_omission, field?_omission, updates.omission, given, change_of_refused unread]
      | profile present unread =>
        rw [field?_profile, field?_profile, updates.profile,
          option?_eq_some_iff.mpr ⟨given, present⟩, change_of_refused unread]
      | confidence _ _ => exact absurd rfl other
      | unknown unknown => contradiction
    confidence := by
      intro v r given refuses
      have enforced := updates.confidence
      rw [requested_of_refused given refuses] at enforced
      refine ⟨enforced, fun held still => ?_⟩
      obtain ⟨requested, before⟩ := (issued_of_held wellFormed held).enforced
      obtain ⟨sameTier, sameMode⟩ : h.tier = base.tier ∧ h.mode = base.mode := by
        simpa [Moved] using still
      rw [sameTier, sameMode, enforce_enforced before] at enforced
      exact (Except.ok.inj enforced).symm

/-! ### How building and updating end -/

/-- How building and updating end under a codex, whatever the values of the options are. -/
structure OptionsSettle (c : Codex) : Prop where
  built : ∀ options, (∀ name ∈ Entries.keys options, name ∈ optionNames) →
    ((∃ h, build c options = .ok h) ↔ Buildable c options)
  notBuilt : ∀ options f, (∀ name ∈ Entries.keys options, name ∈ optionNames) →
    ((∃ e, build c options = .error e ∧ e.reported = f) ↔ BuildFails c options f)
  updated : ∀ base changes,
    (∃ h reports, update c base changes = .ok (h, reports)) ↔ Updatable c changes
  notUpdated : ∀ base changes f,
    (∀ name ∈ Entries.keys changes, name ∉ (["codex", "base"] : List Text)) →
    ((∃ e, update c base changes = .error e ∧ e.reported = f) ↔ UpdateFails c changes f)
  /-- What is refused is reported, nothing else is, and what was held is kept. -/
  refused : ∀ base changes h reports, update c base changes = .ok (h, reports) →
    (∀ r, r ∈ reports ↔ ∃ name v, Entries.get? changes name = some v ∧ Refuses c name v r)
      ∧ KeepsRefused c base changes h

theorem UpdateFails.reported (fails : UpdateFails c changes f) :
  f.reported = f
  := by cases fails <;> rfl

/-- Building under a codex that was loaded ends in a handshake, in a rejection of the first option
that is refused, or, where that cannot be written or the profile cannot be looked up, in another
fault. Updating ends in a handshake and reports of all that is refused, or in such a fault. -/
theorem optionsSettle_of_loaded {v : Value} (loaded : Codex.ofValue v = .ok c) :
  OptionsSettle c
  where
    built := fun _ names => exists_build_iff (Codex.wellFormed_of_loaded loaded) names
    notBuilt := by
      intro options f names
      rw [buildFails_iff names]
      simp only [build_eq_error_iff (Codex.wellFormed_of_loaded loaded) names]
    updated := by
      intro base changes
      constructor
      · rintro ⟨h, reports, updated⟩
        exact (update_eq_ok_iff.mp updated).updatable
      · intro updatable
        exact update_of_updatable (Codex.wellFormed_of_loaded loaded) updatable base
    notUpdated := by
      intro base changes f names
      simp only [update_eq_error_iff (Codex.wellFormed_of_loaded loaded) names]
      constructor
      · rintro ⟨e, fails, rfl⟩
        rwa [fails.reported]
      · intro fails
        exact ⟨f, fails, fails.reported⟩
    refused := by
      intro base changes h reports updated
      have updates := update_eq_ok_iff.mp updated
      refine ⟨fun r => ?_, updates.keepsRefused (Codex.wellFormed_of_loaded loaded)⟩
      rw [updates.reports, mem_reportsOf_iff]

/-! ### A profile that cannot be looked up -/

/-- A list in the place of a profile. -/
def listedProfile : Entries Text Value := [("reflex_profile", .list [.text "strict"])]

theorem names_listedProfile :
  ∀ name ∈ Entries.keys listedProfile, name ∈ optionNames
  := by decide

/-- A list is neither rejected nor reported. -/
theorem unkeyed_listedProfile :
  ∃ c base, Codex.ofValue Codex.smallDocument = .ok c ∧ build c [] = .ok base
    ∧ build c listedProfile = .error (.mismatch (.noKey "list"))
    ∧ update c base listedProfile = .error (.mismatch (.noKey "list"))
  := by
  obtain ⟨c, loaded⟩ := exists_of_isOk Codex.isOk_smallDocument
  have wellFormed := Codex.wellFormed_of_loaded loaded
  have buildable : Buildable c [] :=
    ⟨by simp [Entries.keys], rfl, .text c.handshakeDefaults.profile, rfl⟩
  obtain ⟨base, built⟩ := (exists_build_iff wellFormed buildable.names).mpr buildable
  refine ⟨c, base, loaded, built, ?_, ?_⟩
  · exact (build_eq_error_iff wellFormed names_listedProfile).mpr (.unkeyed rfl rfl)
  · have given : option? listedProfile "reflex_profile" = some (.list [.text "strict"]) := rfl
    exact (update_eq_error_iff wellFormed (by decide)).mpr (.unkeyed given rfl)

theorem optionsSettle_smallChanges :
  ∃ c base h reports, Codex.ofValue Codex.smallDocument = .ok c
    ∧ update c base smallChanges = .ok (h, reports) ∧ Updatable c smallChanges
    ∧ KeepsRefused c base smallChanges h
    ∧ ∃ e, build c listedProfile = .error e ∧ e.reported = .mismatch (.noKey "list")
  := by
  obtain ⟨c, h, reports, loaded, reached, -⟩ := smallHandshake_spec
  obtain ⟨base, -, updated⟩ := bind_eq_ok.mp reached
  have settle := optionsSettle_of_loaded loaded
  refine ⟨c, base, h, reports, loaded, updated, ?_, ?_, ?_⟩
  · exact (settle.updated base smallChanges).mp ⟨h, reports, updated⟩
  · exact (settle.refused base smallChanges h reports updated).2
  · exact (settle.notBuilt listedProfile _ names_listedProfile).mpr (.unkeyed rfl rfl)

end ReflexPolicy.Handshake
