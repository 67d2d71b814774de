import ReflexPolicy.Proofs.Handshake.Floor
import ReflexPolicy.Proofs.Policy.Confidence
import ReflexPolicy.Proofs.Request.Normal

/-!
# Updates that change nothing more

An update that is made again changes nothing and reports the same, an update without changes is
none, and the wire form of a handshake, taken as changes, turns every other handshake into it.  All
this rests on the confidence: what a handshake holds was enforced for its tier and mode, and is
enforced again as it is.
-/

namespace ReflexPolicy.Handshake

variable {c : Codex} {tier : Tier} {mode : Mode} {requested : Option Binary64} {x : Binary64}

/-! ### Confidences that are enforced again -/

/-- What is enforced is the floor itself, or lies above it. -/
theorem enforce_cases (enforced : enforce c tier mode requested = .ok x) :
  ∃ floor, c.minConfidence tier mode = .ok floor ∧ (x = floor ∨ floor.lt x = true)
  := by
  simp only [enforce, bind_eq_ok] at enforced
  obtain ⟨floor, resolved, enforced⟩ := enforced
  have le_one := floor_le_one resolved
  use floor, resolved
  cases requested with
  | none =>
    cases enforced
    exact .inl rfl
  | some y =>
    cases enforced
    by_cases above : floor.lt y = true
    · rw [Binary64.max, if_pos above, Binary64.min]
      split
      · exact .inr above
      · by_cases below : floor.lt 1 = true
        · exact .inr below
        · left
          symm
          apply Binary64.eq_one_of_le le_one
          rw [← Binary64.lt_eq_false_iff (Binary64.isNan_of_le_left le_one)
            (Binary64.isNan_of_le_right le_one)]
          simpa using below
    · rw [Binary64.max, if_neg above, Binary64.min_one le_one]
      exact .inl rfl

theorem enforce_enforced (enforced : enforce c tier mode requested = .ok x) :
  enforce c tier mode (some x) = .ok x
  := by
  obtain ⟨-, -, -, le_one⟩ := enforce_bounds enforced
  obtain ⟨floor, resolved, same⟩ := enforce_cases enforced
  have kept : Binary64.max floor x = x := by
    obtain rfl | above := same
    · rw [Binary64.max, ite_self]
    · rw [Binary64.max, if_pos above]
  rw [enforce, resolved]
  simp only [bind, Except.bind, kept, Binary64.min_one le_one]
  rfl

theorem zero_le_of_enforce {v : Value} (loaded : Codex.ofValue v = .ok c)
    (enforced : enforce c tier mode requested = .ok x) :
  Binary64.le 0 x = true
  := by
  obtain ⟨floor, resolved, above, -⟩ := enforce_bounds enforced
  obtain ⟨p, q, tierGiven, modeGiven, rfl⟩ := Codex.minConfidence_eq_ok_iff.mp resolved
  apply Binary64.le_trans _ above
  apply Binary64.zero_le_roundPlaces
  apply zero_le_boosted (Codex.isUnit_of_tier (Codex.wellFormed_of_loaded loaded) tierGiven)
  exact Codex.upward_of_mode loaded modeGiven

/-! ### Handshakes of a codex -/

/-- What every handshake of a codex has that was built or updated: a confidence that was enforced,
and a profile of the codex that is not absent. -/
structure Issued (c : Codex) (h : Handshake) : Prop where
  enforced : ∃ requested, enforce c h.tier h.mode requested = .ok h.minConfidence
  profile : c.hasProfile h.profile = true
  named : h.profile ≠ .null
  version : h.codexVersion = c.version

theorem named_of_build {options : Entries Text Value} {h : Handshake}
    (built : build c options = .ok h) :
  h.profile ≠ .null
  := by
  obtain ⟨key, wanted, profile⟩ := (build_eq_ok_iff.mp built).profile
  rw [profile]
  split
  · rintro rfl
    rw [wantedProfile] at wanted
    split at wanted
    · rename_i truthy
      cases named : Entries.getD options "reflex_profile" .null with
      | scalar s =>
        rw [named] at wanted truthy
        cases wanted
        cases truthy
      | list items =>
        rw [named] at wanted
        cases wanted
      | map es =>
        rw [named] at wanted
        cases wanted
    · cases wanted
  · simp

theorem named_of_update {base h : Handshake} {changes : Entries Text Value}
    {reports : List Rejection} (named : base.profile ≠ .null)
    (updated : update c base changes = .ok (h, reports)) :
  h.profile ≠ .null
  := by
  rw [(update_eq_ok_iff.mp updated).profile]
  obtain same | ⟨w, key, given, read, taken⟩ := value_change_cases (parseProfile c)
    (option? changes "reflex_profile") base.profile
  · rwa [same]
  · rw [taken]
    rintro rfl
    obtain ⟨keyed, -⟩ := parseProfile_eq_ok_iff.mp read
    obtain ⟨-, present⟩ := option?_eq_some_iff.mp given
    cases w with
    | scalar s =>
      cases keyed
      cases present
    | list items => cases keyed
    | map es => cases keyed

theorem issued_of_held (wellFormed : c.WellFormed) {h : Handshake} (held : Held c h) :
  Issued c h
  := by
  have keeps := keeps_of_held wellFormed held
  refine ⟨?_, keeps.profile, ?_, keeps.version⟩
  · cases held with
    | build built => exact (build_spec built).1
    | update _ updated => exact (update_spec updated).1
  · clear keeps
    induction held with
    | build built => exact named_of_build built
    | update _ updated ih => exact named_of_update ih updated

/-! ### Updates that are made again -/

variable {base h : Handshake} {changes : Entries Text Value} {reports : List Rejection}

/-- Nothing has moved where nothing moves any more. -/
theorem requested_self :
  Handshake.requested h h changes
    = some (change parseConfidence (option? changes "min_confidence") h.minConfidence).value
  := by simp [Handshake.requested, Moved]

theorem Updates.again (updates : Updates c base changes h reports) :
  Updates c h changes h reports
  where
    updatable := updates.updatable
    mode := by rw [updates.mode, value_change_change]
    tier := by rw [updates.tier, value_change_change]
    citation := by rw [updates.citation, value_change_change]
    omission := by rw [updates.omission, value_change_change]
    profile := by rw [updates.profile, value_change_change]
    confidence := by
      have enforced := updates.confidence
      rw [requested_self]
      obtain same | ⟨w, x, given, read, taken⟩ := value_change_cases parseConfidence
        (option? changes "min_confidence") h.minConfidence
      · rw [same]
        exact enforce_enforced enforced
      · -- A confidence that is given is asked for in both updates, whatever moves.
        rw [taken]
        rw [Handshake.requested, given] at enforced
        simpa [change, read] using enforced
    version := updates.version
    reports := updates.reports

theorem Issued.updates_nil (issued : Issued c h) :
  Updates c h [] h []
  where
    updatable := ⟨by simp [Entries.keys], by simp [option?, Entries.get?],
      by simp [option?, Entries.get?]⟩
    mode := rfl
    tier := rfl
    citation := rfl
    omission := rfl
    profile := rfl
    confidence := by
      obtain ⟨requested, enforced⟩ := issued.enforced
      rw [requested_self]
      exact enforce_enforced enforced
    version := issued.version
    reports := by
      simp [reportsOf, wordRefusals, unknownFields, Entries.keys, option?, Entries.get?, refusals]

/-! ### Wire forms as changes -/

/-- The value of a field of a handshake on the wire. -/
def field? (h : Handshake) (name : Text) : Option Value :=
  h.wire.entries?.bind fun es => Entries.get? es (.text name)

section

variable (h : Handshake)

@[simp]
theorem field?_mode :
  field? h "mode" = some (.text h.mode.name)
  := by simp [field?, wire, Value.ofFields, Value.entries?, Entries.get?, Scalar.beq_names]

@[simp]
theorem field?_tier :
  field? h "tier" = some (.text h.tier.name)
  := by simp [field?, wire, Value.ofFields, Value.entries?, Entries.get?, Scalar.beq_names]

@[simp]
theorem field?_confidence :
  field? h "min_confidence" = some (.float h.minConfidence)
  := by simp [field?, wire, Value.ofFields, Value.entries?, Entries.get?, Scalar.beq_names]

@[simp]
theorem field?_citation :
  field? h "cite_policy" = some (.text h.citation.name)
  := by simp [field?, wire, Value.ofFields, Value.entries?, Entries.get?, Scalar.beq_names]

@[simp]
theorem field?_omission :
  field? h "omission_scan" = some (h.omission.elim (.text "auto") .bool)
  := by
  simp only [field?, wire, Value.ofFields, Value.entries?, List.map, Option.bind_some,
    Entries.get?, Scalar.beq_names]
  cases h.omission <;> simp

@[simp]
theorem field?_profile :
  field? h "reflex_profile" = some (.scalar h.profile)
  := by simp [field?, wire, Value.ofFields, Value.entries?, Entries.get?, Scalar.beq_names]

end

/-- The fields of a handshake on the wire that are options, as changes. -/
def wireChanges (h : Handshake) : Entries Text Value :=
  optionNames.filterMap fun name => (field? h name).map fun v => (name, v)

theorem wireChanges_eq (h : Handshake) :
  wireChanges h = ([("mode", .text h.mode.name), ("tier", .text h.tier.name),
    ("min_confidence", .float h.minConfidence), ("cite_policy", .text h.citation.name),
    ("omission_scan", h.omission.elim (.text "auto") .bool),
    ("reflex_profile", .scalar h.profile)] : List (Text × Value))
  := by simp [wireChanges, optionNames]

/-- Each field is read back from its form on the wire. -/
theorem Issued.updates_wireChanges {v : Value} (loaded : Codex.ofValue v = .ok c)
    (issued : Issued c h) (base : Handshake) :
  Updates c base (wireChanges h) h []
  := by
  obtain ⟨requested, enforced⟩ := issued.enforced
  have omissionRead : OmissionOverride.parse (h.omission.elim (.text "auto") .bool)
      = .ok h.omission := by
    cases h.omission <;> rfl
  have profileRead : parseProfile c (.scalar h.profile) = .ok h.profile :=
    parseProfile_eq_ok_iff.mpr ⟨rfl, issued.profile⟩
  have unit : h.minConfidence.isUnit = true := by
    obtain ⟨-, -, -, le_one⟩ := enforce_bounds enforced
    exact Binary64.isUnit_iff.mpr ⟨zero_le_of_enforce loaded enforced, le_one⟩
  have confidenceRead : parseConfidence (.float h.minConfidence) = .ok h.minConfidence := by
    simp [parseConfidence, confidence?, Value.number?, Number.toBinary64?, unit]
  have named : Value.isNull (.scalar h.profile) = false := by
    cases profile : h.profile with
    | null => exact absurd profile issued.named
    | _ => rfl
  have modeGiven : option? (wireChanges h) "mode" = some (.text h.mode.name) := by
    simp [option?, wireChanges_eq, Entries.get?, Value.isNull]
  have tierGiven : option? (wireChanges h) "tier" = some (.text h.tier.name) := by
    simp [option?, wireChanges_eq, Entries.get?, Text.ofString_inj, Value.isNull]
  have citationGiven : option? (wireChanges h) "cite_policy" = some (.text h.citation.name) := by
    simp [option?, wireChanges_eq, Entries.get?, Text.ofString_inj, Value.isNull]
  have omissionGiven : Entries.get? (wireChanges h) "omission_scan"
      = some (h.omission.elim (.text "auto") .bool) := by
    simp [wireChanges_eq, Entries.get?, Text.ofString_inj]
  have profileGiven : option? (wireChanges h) "reflex_profile" = some (.scalar h.profile) := by
    simp [option?, wireChanges_eq, Entries.get?, Text.ofString_inj, named]
  have confidenceGiven : option? (wireChanges h) "min_confidence"
      = some (.float h.minConfidence) := by
    simp [option?, wireChanges_eq, Entries.get?, Text.ofString_inj, Value.isNull]
  constructor
  case updatable =>
    constructor
    case names => simp [wireChanges_eq, Entries.keys, Text.ofString_inj]
    case profile =>
      intro w given
      rw [profileGiven] at given
      cases given
      exact ⟨h.profile, rfl, .inl issued.profile⟩
    case confidence =>
      intro w given
      rw [confidenceGiven] at given
      cases given
      rfl
  case mode => rw [modeGiven, change_of_read (parse_mode_name _)]
  case tier => rw [tierGiven, change_of_read (parse_tier_name _)]
  case citation => rw [citationGiven, change_of_read (parse_citation_name _)]
  case omission => rw [omissionGiven, change_of_read omissionRead]
  case profile => rw [profileGiven, change_of_read profileRead]
  case confidence =>
    rw [Handshake.requested, confidenceGiven, change_of_read confidenceRead]
    simpa using enforce_enforced enforced
  case version => exact issued.version
  case reports =>
    have known : unknownFields (wireChanges h) = [] := by
      simp [unknownFields, wireChanges_eq, Entries.keys, optionNames]
    rw [reportsOf, wordRefusals, known, modeGiven, tierGiven, citationGiven, omissionGiven,
      profileGiven, confidenceGiven, refusals_of_read (parse_mode_name _),
      refusals_of_read (parse_tier_name _), refusals_of_read (parse_citation_name _),
      refusals_of_read omissionRead, refusals_of_read profileRead,
      refusals_of_read confidenceRead]
    rfl

/-- Updates of the handshakes of a codex change nothing more when they are made again, nor when they
have no changes, and the wire form of a handshake restores it from every other one. -/
theorem update_stable {v : Value} (loaded : Codex.ofValue v = .ok c) {base : Handshake}
    (held : Held c base) :
  (∀ changes h reports, update c base changes = .ok (h, reports) →
      update c h changes = .ok (h, reports))
    ∧ update c base [] = .ok (base, [])
    ∧ ∀ h, Held c h → update c base (wireChanges h) = .ok (h, [])
  := by
  have wellFormed := Codex.wellFormed_of_loaded loaded
  refine ⟨?_, ?_, ?_⟩
  · intro changes h reports updated
    exact update_eq_ok_iff.mpr (update_eq_ok_iff.mp updated).again
  · exact update_eq_ok_iff.mpr (issued_of_held wellFormed held).updates_nil
  · intro h held
    exact update_eq_ok_iff.mpr ((issued_of_held wellFormed held).updates_wireChanges loaded base)

/-- The update of the small handshake: another tier and mode, and a confidence that is refused. -/
def smallChanges : Entries Text Value :=
  [("tier", .text "high"), ("mode", .text "careful"), ("min_confidence", .int 7)]

theorem update_stable_smallChanges :
  ∃ c base h reports, Codex.ofValue Codex.smallDocument = .ok c ∧ Held c base ∧ Held c h
    ∧ update c base smallChanges = .ok (h, reports)
    ∧ update c h smallChanges = .ok (h, reports)
    ∧ update c base [] = .ok (base, [])
    ∧ update c base (wireChanges h) = .ok (h, [])
  := by
  obtain ⟨c, h, reports, loaded, reached, -⟩ := smallHandshake_spec
  obtain ⟨base, built, updated⟩ := bind_eq_ok.mp reached
  have heldBase : Held c base := .build built
  have held : Held c h := .update heldBase updated
  obtain ⟨again, unchanged, restored⟩ := update_stable loaded heldBase
  exact ⟨c, base, h, reports, loaded, heldBase, held, updated, again _ _ _ updated, unchanged,
    restored h held⟩

end ReflexPolicy.Handshake
