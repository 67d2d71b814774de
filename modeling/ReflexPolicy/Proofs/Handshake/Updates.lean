import ReflexPolicy.Proofs.Handshake.Changes

/-!
# What an update comes to

An update reads each of its changes by itself, and only its confidence depends on several of them.
`Updates` says, field by field, what comes of all changes, and `update_eq_ok_iff` that updates come
to this and nothing else.
-/

namespace ReflexPolicy.Handshake

variable {c : Codex}

theorem clash?_eq_none_iff {operation : String} {given : List Text}
    {options : Entries Text Value} :
  Options.clash? operation given options = none ↔ ∀ name ∈ Entries.keys options, name ∉ given
  := by
  simp [Options.clash?]

/-- An update can be made of changes: none of them is given in another way, the profile can be
looked up, and a profile or a confidence that has to be quoted can be. -/
structure Updatable (c : Codex) (changes : Entries Text Value) : Prop where
  names : ∀ name ∈ Entries.keys changes, name ∉ (["codex", "base"] : List Text)
  profile : ∀ v, option? changes "reflex_profile" = some v → NamesProfile c v
  confidence : ∀ v, option? changes "min_confidence" = some v → v.isWritable = true

/-- The tier or the mode of a handshake is another one than it was. -/
def Moved (base h : Handshake) : Prop := h.tier ≠ base.tier ∨ h.mode ≠ base.mode

instance (base h : Handshake) : Decidable (Moved base h) := by
  unfold Moved
  infer_instance

/-- The confidence that is asked for: the one that is given, or else the one that was held, which
does not outlast another tier or mode. -/
def requested (base h : Handshake) (changes : Entries Text Value) : Option Binary64 :=
  let asked := option? changes "min_confidence"
  if Moved base h ∧ asked.isNone then none
  else some (change parseConfidence asked base.minConfidence).value

/-- A confidence that is refused asks for the one that was held, even where the tier or the mode
becomes another one. -/
theorem requested_of_refused {base h : Handshake} {changes : Entries Text Value} {v : Value}
    {r : Rejection} (given : Entries.get? changes "min_confidence" = some v)
    (refuses : Refuses c "min_confidence" v r) :
  requested base h changes = some base.minConfidence
  := by
  obtain ⟨present, unread⟩ : v.isNull = false ∧ parseConfidence v = .error r := by
    simpa [refuses_iff, Text.ofString_inj, optionNames] using refuses
  rw [requested, option?_eq_some_iff.mpr ⟨given, present⟩, change_of_refused unread]
  simp

/-- What is reported of changes: the names that are no options, and the refusals. -/
def reportsOf (c : Codex) (changes : Entries Text Value) : List Rejection :=
  (unknownFields changes).map Rejection.unknownField
    ++ wordRefusals changes
    ++ refusals (parseProfile c) (option? changes "reflex_profile")
    ++ refusals parseConfidence (option? changes "min_confidence")

theorem mem_unknownFields_iff {changes : Entries Text Value} {name : Text} :
  name ∈ unknownFields changes
    ↔ name ∉ optionNames ∧ ∃ v, Entries.get? changes name = some v
  := by
  simp [unknownFields, Entries.mem_keys_iff, and_comm]

/-- The unknown names are sorted, so that the order of the changes does not matter. -/
theorem unknownFields_congr {changes changes' : Entries Text Value}
    (perm : (Entries.keys changes).Perm (Entries.keys changes')) :
  unknownFields changes = unknownFields changes'
  := by
  apply List.Perm.eq_of_pairwise fun s t _ _ => Text.beforeOrSame_antisymm s t
  · apply List.pairwise_mergeSort Text.beforeOrSame_trans Text.beforeOrSame_total
  · apply List.pairwise_mergeSort Text.beforeOrSame_trans Text.beforeOrSame_total
  · apply (List.mergeSort_perm _ _).trans
    apply (perm.filter _).trans
    exact (List.mergeSort_perm _ _).symm

/-- Every change that is refused is reported, and nothing else is. -/
theorem mem_reportsOf_iff {changes : Entries Text Value} {r : Rejection} :
  r ∈ reportsOf c changes ↔ ∃ name v, Entries.get? changes name = some v ∧ Refuses c name v r
  := by
  simp only [reportsOf, wordRefusals, List.mem_append, List.mem_map, mem_unknownFields_iff,
    mem_refusals_iff, option?_eq_some_iff, and_assoc]
  constructor
  · rintro (((⟨name, unknown, ⟨v, given⟩, rfl⟩ | (((⟨v, given, present, unread⟩
      | ⟨v, given, present, unread⟩) | ⟨v, given, present, unread⟩) | ⟨v, given, unread⟩))
      | ⟨v, given, present, unread⟩) | ⟨v, given, present, unread⟩)
    · exact ⟨name, v, given, .unknown unknown⟩
    · exact ⟨_, v, given, .mode present unread⟩
    · exact ⟨_, v, given, .tier present unread⟩
    · exact ⟨_, v, given, .citation present unread⟩
    · exact ⟨_, v, given, .omission unread⟩
    · exact ⟨_, v, given, .profile present unread⟩
    · exact ⟨_, v, given, .confidence present unread⟩
  · rintro ⟨name, v, given, refuses⟩
    cases refuses with
    | unknown unknown => exact .inl (.inl (.inl ⟨name, unknown, ⟨v, given⟩, rfl⟩))
    | mode present unread =>
      exact .inl (.inl (.inr (.inl (.inl (.inl ⟨v, given, present, unread⟩)))))
    | tier present unread =>
      exact .inl (.inl (.inr (.inl (.inl (.inr ⟨v, given, present, unread⟩)))))
    | citation present unread => exact .inl (.inl (.inr (.inl (.inr ⟨v, given, present, unread⟩))))
    | omission unread => exact .inl (.inl (.inr (.inr ⟨v, given, unread⟩)))
    | profile present unread => exact .inl (.inr ⟨v, given, present, unread⟩)
    | confidence present unread => exact .inr ⟨v, given, present, unread⟩

/-- What an update comes to, field by field. -/
structure Updates (c : Codex) (base : Handshake) (changes : Entries Text Value) (h : Handshake)
    (reports : List Rejection) : Prop where
  updatable : Updatable c changes
  mode : h.mode = (change Mode.parse (option? changes "mode") base.mode).value
  tier : h.tier = (change Tier.parse (option? changes "tier") base.tier).value
  citation : h.citation
    = (change CitationOverride.parse (option? changes "cite_policy") base.citation).value
  omission : h.omission
    = (change OmissionOverride.parse (Entries.get? changes "omission_scan") base.omission).value
  profile : h.profile
    = (change (parseProfile c) (option? changes "reflex_profile") base.profile).value
  confidence : enforce c h.tier h.mode (requested base h changes) = .ok h.minConfidence
  version : h.codexVersion = c.version
  reports : reports = reportsOf c changes

variable {base h : Handshake} {changes : Entries Text Value} {reports : List Rejection}

theorem update_eq_ok_iff :
  update c base changes = .ok (h, reports) ↔ Updates c base changes h reports
  := by
  rw [update]
  split
  · rename_i m clashes
    constructor
    · intro failed
      cases failed
    · intro updates
      rw [clash?_eq_none_iff.mpr updates.updatable.names] at clashes
      cases clashes
  · rename_i unclashed
    simp only [bind_eq_ok, pure_eq_ok, changeProfile_eq_ok_iff, quoted_confidence_eq_ok_iff,
      Prod.mk.injEq, reports_change]
    constructor
    · rintro ⟨_, ⟨named, rfl⟩, _, ⟨written, rfl⟩, confidence, enforced, rfl, rfl⟩
      exact {
        updatable := ⟨clash?_eq_none_iff.mp unclashed, named, written⟩
        mode := rfl
        tier := rfl
        citation := rfl
        omission := rfl
        profile := rfl
        confidence := enforced
        version := rfl
        reports := by simp only [reports_change, reportsOf, wordRefusals, List.append_assoc] }
    · intro updates
      refine ⟨_, ⟨updates.updatable.profile, rfl⟩, _, ⟨updates.updatable.confidence, rfl⟩,
        h.minConfidence, ?_, ?_, ?_⟩
      · rw [← updates.tier, ← updates.mode]
        exact updates.confidence
      · rw [← updates.tier, ← updates.mode, ← updates.citation, ← updates.omission,
          ← updates.profile, ← updates.version]
      · simp only [updates.reports, reports_change, reportsOf, wordRefusals, List.append_assoc]

/-- An update that can be made is made. -/
theorem update_of_updatable (wellFormed : c.WellFormed) (updatable : Updatable c changes)
    (base : Handshake) :
  ∃ h reports, update c base changes = .ok (h, reports)
  := by
  -- All fields but the confidence are fixed, and some confidence is enforced for them.
  let kept : Handshake :=
    { base with
      mode := (change Mode.parse (option? changes "mode") base.mode).value
      tier := (change Tier.parse (option? changes "tier") base.tier).value
      citation :=
        (change CitationOverride.parse (option? changes "cite_policy") base.citation).value
      omission :=
        (change OmissionOverride.parse (Entries.get? changes "omission_scan") base.omission).value
      profile := (change (parseProfile c) (option? changes "reflex_profile") base.profile).value
      codexVersion := c.version }
  obtain ⟨x, enforced⟩ := enforce_of_wellFormed wellFormed kept.tier kept.mode
    (requested base kept changes)
  refine ⟨{ kept with minConfidence := x }, reportsOf c changes, update_eq_ok_iff.mpr ?_⟩
  exact {
    updatable := updatable
    mode := rfl
    tier := rfl
    citation := rfl
    omission := rfl
    profile := rfl
    confidence := enforced
    version := rfl
    reports := rfl }

end ReflexPolicy.Handshake
