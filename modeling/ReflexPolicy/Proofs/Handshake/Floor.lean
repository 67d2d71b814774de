import ReflexPolicy.Proofs.Binary64.Monotone
import ReflexPolicy.Proofs.Handshake.Builds
import ReflexPolicy.Proofs.Handshake.Updates

/-!
# The floor of a handshake

A handshake may be updated any number of times, with any changes.  However that happens, its
confidence does not fall below the floor of its tier and mode, its profile stays one of the codex,
and its version that of the codex.  So no evaluation under the handshake asks for more confidence
than it holds.
-/

namespace ReflexPolicy.Handshake

/-- The handshakes that a session can come to hold: one that was built, and what comes of it by
updates. -/
inductive Held (c : Codex) : Handshake → Prop where
  | build {options : Entries Text Value} {h : Handshake} (built : build c options = .ok h) :
    Held c h
  | update {base h : Handshake} {changes : Entries Text Value} {reports : List Rejection}
    (before : Held c base) (updated : update c base changes = .ok (h, reports)) : Held c h

/-- A handshake keeps to the codex. -/
structure Keeps (c : Codex) (h : Handshake) : Prop where
  floor : ∃ floor, c.minConfidence h.tier h.mode = .ok floor ∧ floor.le h.minConfidence = true
  bounded : h.minConfidence.le 1 = true
  profile : c.hasProfile h.profile = true
  version : h.codexVersion = c.version

variable {c : Codex} {tier : Tier} {mode : Mode}

/-! ### Confidence -/

theorem floor_le_one {floor : Binary64} (resolved : c.minConfidence tier mode = .ok floor) :
  floor.le 1 = true
  := by
  simp only [Codex.minConfidence, bind_eq_ok, pure_eq_ok] at resolved
  obtain ⟨t, -, m, -, rfl⟩ := resolved
  apply Binary64.roundPlaces_le_one
  apply Binary64.min_le_left
  decide +kernel

/-- What is enforced lies between the floor and one, whatever is requested. -/
theorem enforce_bounds {requested : Option Binary64} {x : Binary64}
    (h : enforce c tier mode requested = .ok x) :
  ∃ floor, c.minConfidence tier mode = .ok floor ∧ floor.le x = true ∧ x.le 1 = true
  := by
  simp only [enforce, bind_eq_ok] at h
  obtain ⟨floor, resolved, h⟩ := h
  have le_one := floor_le_one resolved
  have number := Binary64.isNan_of_le_left le_one
  use floor, resolved
  cases requested with
  | none =>
    cases h
    exact ⟨Binary64.le_refl number, le_one⟩
  | some y =>
    cases h
    constructor
    · apply Binary64.le_min le_one
      apply Binary64.le_max_left number
    · apply Binary64.min_le_left
      decide +kernel

/-! ### Building and updating -/

/-- What a handshake takes over that is built. -/
theorem build_spec {options : Entries Text Value} {h : Handshake}
    (built : build c options = .ok h) :
  (∃ requested, enforce c h.tier h.mode requested = .ok h.minConfidence)
    ∧ (c.hasProfile h.profile = true ∨ h.profile = .text defaultProfile)
    ∧ h.codexVersion = c.version
  := by
  have builds := build_eq_ok_iff.mp built
  refine ⟨⟨_, builds.confidence⟩, ?_, builds.version⟩
  obtain ⟨key, -, profile⟩ := builds.profile
  rw [profile]
  split
  · exact .inl ‹_›
  · exact .inr rfl

theorem keeps_build (wellFormed : c.WellFormed) {options : Entries Text Value} {h : Handshake}
    (built : build c options = .ok h) :
  Keeps c h
  := by
  obtain ⟨⟨requested, enforced⟩, profile, version⟩ := build_spec built
  obtain ⟨floor, resolved, above, bounded⟩ := enforce_bounds enforced
  exact {
    floor := ⟨floor, resolved, above⟩
    bounded := bounded
    profile := by
      obtain known | default := profile
      · apply known
      · obtain ⟨p, given, -⟩ := wellFormed.default
        rw [default, Codex.hasProfile, given]
        rfl
    version := version }

/-- What a handshake takes over that is updated. -/
theorem update_spec {base h : Handshake} {changes : Entries Text Value} {reports : List Rejection}
    (updated : update c base changes = .ok (h, reports)) :
  (∃ requested, enforce c h.tier h.mode requested = .ok h.minConfidence)
    ∧ (h.profile = base.profile ∨ c.hasProfile h.profile = true)
    ∧ h.codexVersion = c.version
  := by
  have updates := update_eq_ok_iff.mp updated
  refine ⟨⟨_, updates.confidence⟩, ?_, updates.version⟩
  rw [updates.profile]
  obtain same | ⟨_, key, -, read, taken⟩ := value_change_cases (parseProfile c)
    (option? changes "reflex_profile") base.profile
  · exact .inl same
  · rw [taken]
    exact .inr (parseProfile_eq_ok_iff.mp read).2

theorem keeps_update {base h : Handshake} {changes : Entries Text Value}
    {reports : List Rejection} (keeps : Keeps c base)
    (updated : update c base changes = .ok (h, reports)) :
  Keeps c h
  := by
  obtain ⟨⟨requested, enforced⟩, profile, version⟩ := update_spec updated
  obtain ⟨floor, resolved, above, bounded⟩ := enforce_bounds enforced
  exact {
    floor := ⟨floor, resolved, above⟩
    bounded := bounded
    profile := by
      obtain same | known := profile
      · rw [same]
        apply keeps.profile
      · apply known
    version := version }

theorem keeps_of_held (wellFormed : c.WellFormed) {h : Handshake} (held : Held c h) :
  Keeps c h
  := by
  induction held with
  | build built => exact keeps_build wellFormed built
  | update _ updated ih => exact keeps_update ih updated

/-! ### Failed builds -/

/-- A handshake of known options that is not built has an option that is rejected, as long as the
name of its profile can be looked up. -/
theorem rejected_of_build {c : Codex} (wellFormed : c.WellFormed) {options : Entries Text Value}
    (known : ∀ name ∈ Entries.keys options, optionFault? name = none)
    (keyed : ∃ t, Entries.getD options "reflex_profile" .null = .text t) {e : Fault}
    (failed : build c options = .error e) :
  ∃ r, e = .rejected r
  := by
  have names (name : Text) (mem : name ∈ Entries.keys options) : name ∈ optionNames :=
    optionFault?_eq_none_iff.mp (known name mem)
  cases declines_of_build wellFormed names failed with
  | refused _ => exact ⟨_, rfl⟩
  | unkeyed _ unkeyed =>
    obtain ⟨t, named⟩ := keyed
    rw [wantedProfile, named] at unkeyed
    split at unkeyed <;> cases unkeyed

/-! ### Evaluations under a handshake -/

/-- An evaluation under a handshake keeps to it. -/
structure Covers (h : Handshake) (o : Outcome) : Prop where
  minConfidence : o.minConfidence.le h.minConfidence = true
  profile : .text o.profile = h.profile
  version : o.codexVersion = h.codexVersion

/-- A request is made under a handshake: it has its tier, its mode and its profile. -/
structure Under (h : Handshake) (r : Request) : Prop where
  tier : r.tier = h.tier
  mode : r.mode = h.mode
  profile : .text r.profile = h.profile

theorem covers_of_answers {h : Handshake} (keeps : Keeps c h) {r : Request} (under : Under h r)
    {order : List Text} {rules : TierPolicy} {o : Outcome} (answers : c.Answers r order rules o) :
  Covers h o
  where
    minConfidence := by
      obtain ⟨floor, resolved, above⟩ := keeps.floor
      have asked := answers.minConfidence
      rw [under.tier, under.mode, resolved] at asked
      cases asked
      apply above
    profile := by
      obtain ⟨-, used⟩ | ⟨unknown, -⟩ := answers.profile
      · rw [used]
        apply under.profile
      · rw [under.profile, keeps.profile] at unknown
        cases unknown
    version := by rw [answers.codexVersion, keeps.version]

/-- However a handshake came about, it keeps to the codex that was loaded, and every evaluation of a
request under it keeps to the handshake. -/
theorem covers_of_held {v : Value} (loaded : Codex.ofValue v = .ok c) {h : Handshake}
    (held : Held c h) :
  Keeps c h ∧ ∀ d r, d.validate = .ok r → Under h r → ∃ o, c.evaluate d = .ok o ∧ Covers h o
  := by
  obtain ⟨doc, -, given⟩ := Codex.gives_of_ofValue loaded
  obtain ⟨wellFormed, -⟩ := Codex.wellFormed_of_gives given
  have keeps := keeps_of_held wellFormed held
  use keeps
  intro d r valid under
  obtain ⟨p, rules, o, -, -, answer, answers⟩ := Codex.outcome_of_loaded loaded valid
  use o
  constructor
  · rw [Codex.evaluate_of_validate valid, answer]
  · exact covers_of_answers keeps under answers

/-! ### A small handshake -/

/-- A handshake of the small document with a confidence of its own at the lowest tier, which is then
taken to the highest tier with a confidence that is none. -/
def smallHandshake (c : Codex) : Except Fault (Handshake × List Rejection) := do
  let base ← build c [("tier", .text "low"), ("min_confidence", .float 0.6),
    ("reflex_profile", .text "strict")]
  update c base [("tier", .text "high"), ("mode", .text "careful"), ("min_confidence", .int 7)]

/-- A request under the small handshake. -/
def smallRequest : Request where
  tier := .high
  mode := .careful
  scores := [("claim", 0.7)]
  age := { turns := 0, tokens := 0 }
  externalClaim := false
  citation := .auto
  omission := none
  profile := "strict"

set_option maxRecDepth 4000 in
theorem validate_smallRequest :
  smallRequest.draft.validate = .ok smallRequest
  := by rfl

/-- The small handshake can be had, and the small request is made under it. -/
theorem smallHandshake_spec :
  ∃ c h reports, Codex.ofValue Codex.smallDocument = .ok c ∧ smallHandshake c = .ok (h, reports)
    ∧ Under h smallRequest
  := by
  have computed : passes (fun c => passes (fun updated => decide (updated.1.tier = .high
      ∧ updated.1.mode = .careful ∧ updated.1.profile = .text "strict")) (smallHandshake c))
      (Codex.ofValue Codex.smallDocument) = true := by decide +kernel
  obtain ⟨c, loaded, computed⟩ := exists_of_passes computed
  obtain ⟨⟨h, reports⟩, updated, computed⟩ := exists_of_passes computed
  obtain ⟨tier, mode, profile⟩ := of_decide_eq_true computed
  exact ⟨c, h, reports, loaded, updated, tier.symm, mode.symm, profile.symm⟩

theorem covers_smallHandshake :
  ∃ c h, Codex.ofValue Codex.smallDocument = .ok c ∧ Held c h ∧ Keeps c h
    ∧ smallRequest.draft.validate = .ok smallRequest ∧ Under h smallRequest
    ∧ ∃ o, c.evaluate smallRequest.draft = .ok o ∧ Covers h o
  := by
  obtain ⟨c, h, reports, loaded, reached, under⟩ := smallHandshake_spec
  obtain ⟨base, built, updated⟩ := bind_eq_ok.mp reached
  have held : Held c h := .update (.build built) updated
  obtain ⟨keeps, covers⟩ := covers_of_held loaded held
  exact ⟨c, h, loaded, held, keeps, validate_smallRequest, under,
    covers smallRequest.draft smallRequest validate_smallRequest under⟩

end ReflexPolicy.Handshake
