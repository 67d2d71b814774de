import ReflexPolicy.Proofs.Handshake.Changes

/-!
# What building a handshake comes to

A handshake is built from the defaults of a codex and from options.  Where an update reports what it
refuses, building breaks off at the first refusal: `Builds` says what comes of options that are all
read, `build_eq_ok_iff` that nothing else is built, and `Declines` why nothing is built.
-/

namespace ReflexPolicy.Handshake

/-! ### Single options -/

section

variable {α : Type} {parse : Value → Except Rejection α} {v : Option Value} {default : α}

/-- An option that is read changes the default. -/
theorem optionOr_eq_ok_iff {a : α} :
  optionOr parse v default = .ok a
    ↔ refusals parse v = [] ∧ a = (change parse v default).value
  := by
  cases v with
  | none => simp [optionOr, refusals, change, eq_comm]
  | some w =>
    rw [optionOr, refusals, change]
    cases parse w <;> simp [Fault.ofRejection, eq_comm]

theorem optionOr_eq_error_iff {e : Fault} :
  optionOr parse v default = .error e ↔ ∃ r, refusals parse v = [r] ∧ e = .rejected r
  := by
  cases v with
  | none => simp [optionOr, refusals]
  | some w =>
    rw [optionOr, refusals]
    cases parse w <;> simp [Fault.ofRejection, eq_comm]

end

variable {v : Option Value}

/-- The confidence of an option, if it has one. -/
theorem requestedConfidence_eq_ok_iff {requested : Option Binary64} :
  requestedConfidence v = .ok requested
    ↔ refusals parseConfidence v = [] ∧ requested = v.bind confidence?
  := by
  cases v with
  | none => simp [requestedConfidence, refusals, eq_comm]
  | some w =>
    rw [requestedConfidence, refusals, parseConfidence, Option.bind_some]
    cases confidence? w <;> simp [eq_comm]

theorem requestedConfidence_eq_error_iff {e : Fault} :
  requestedConfidence v = .error e ↔ ∃ r, refusals parseConfidence v = [r] ∧ e = .rejected r
  := by
  cases v with
  | none => simp [requestedConfidence, refusals]
  | some w =>
    rw [requestedConfidence, refusals, parseConfidence]
    cases confidence? w <;> simp [eq_comm]

/-- The option of the omission scan, unless it leaves the default. -/
def askedOmission (options : Entries Text Value) : Option Value :=
  let asked := option? options "omission_scan"
  if leavesOmission asked then none else asked

/-- What leaves the default is read like any other value. -/
theorem parse_of_leavesOmission {w : Value} (leaves : leavesOmission (some w) = true) :
  OmissionOverride.parse w = .ok none
  := by
  cases w with
  | list items => cases leaves
  | map es => cases leaves
  | scalar s =>
    cases s with
    | text t =>
      rw [eq_of_beq leaves]
      rfl
    | _ => cases leaves

/-- So it is not refused. -/
theorem refusals_askedOmission {options : Entries Text Value} :
  refusals OmissionOverride.parse (askedOmission options)
    = refusals OmissionOverride.parse (Entries.get? options "omission_scan")
  := by
  rw [askedOmission, option?]
  cases Entries.get? options "omission_scan" with
  | none => rfl
  | some w =>
    cases absent : w.isNull with
    | true =>
      obtain rfl := Value.isNull_iff.mp absent
      rfl
    | false =>
      cases leaves : leavesOmission (some w) with
      | true => simp [Option.filter, absent, leaves, refusals, parse_of_leavesOmission leaves]
      | false => simp [Option.filter, absent, leaves]

/-- The value that names the profile: that of the option, unless it counts as false. -/
def wantedProfile (c : Codex) (options : Entries Text Value) : Value :=
  let named := Entries.getD options "reflex_profile" .null
  if named.truthy then named else .text c.handshakeDefaults.profile

/-! ### All options of a handshake -/

/-- The refusals of the options that have to be read; a profile is not read but looked up. -/
def buildRefusals (options : Entries Text Value) : List Rejection :=
  wordRefusals options ++ refusals parseConfidence (option? options "min_confidence")

/-- A handshake can be built of options: there are such options, they are read, and the profile can
be looked up. -/
structure Buildable (c : Codex) (options : Entries Text Value) : Prop where
  names : ∀ name ∈ Entries.keys options, name ∈ optionNames
  read : buildRefusals options = []
  profile : ∃ key, (wantedProfile c options).key? = some key

/-- What a handshake that is built of options comes to, field by field. -/
structure Builds (c : Codex) (options : Entries Text Value) (h : Handshake) : Prop where
  buildable : Buildable c options
  mode : h.mode = (change Mode.parse (option? options "mode") c.handshakeDefaults.mode).value
  tier : h.tier = (change Tier.parse (option? options "tier") c.handshakeDefaults.tier).value
  citation : h.citation = (change CitationOverride.parse (option? options "cite_policy")
    c.handshakeDefaults.citation).value
  omission : h.omission = (change OmissionOverride.parse (askedOmission options)
    c.handshakeDefaults.omission).value
  confidence : enforce c h.tier h.mode ((option? options "min_confidence").bind confidence?)
    = .ok h.minConfidence
  profile : ∃ key, (wantedProfile c options).key? = some key
    ∧ h.profile = if c.hasProfile key then key else .text defaultProfile
  version : h.codexVersion = c.version

variable {c : Codex} {options : Entries Text Value} {h : Handshake}

theorem optionFault?_eq_none_iff {name : Text} :
  optionFault? name = none ↔ name ∈ optionNames
  := by
  rw [optionFault?]
  split
  · rename_i same
    subst same
    refine iff_of_false (by simp) ?_
    decide
  · split <;> simp_all

theorem build_of_unknown {m : Mismatch}
    (found : (Entries.keys options).findSome? optionFault? = some m) :
  build c options = .error (.mismatch m)
  := by
  rw [build, found]
  rfl

/-- Building is reading the options one after another. -/
theorem build_of_known (known : (Entries.keys options).findSome? optionFault? = none) :
  build c options = (do
    let mode ← optionOr Mode.parse (option? options "mode") c.handshakeDefaults.mode
    let tier ← optionOr Tier.parse (option? options "tier") c.handshakeDefaults.tier
    let citation ← optionOr CitationOverride.parse (option? options "cite_policy")
      c.handshakeDefaults.citation
    let omission ← optionOr OmissionOverride.parse (askedOmission options)
      c.handshakeDefaults.omission
    let requested ← requestedConfidence (option? options "min_confidence")
    let key ← keyOf (wantedProfile c options)
    let confidence ← enforce c tier mode requested
    return { mode := mode
             tier := tier
             minConfidence := confidence
             citation := citation
             omission := omission
             profile := if c.hasProfile key then key else .text defaultProfile
             codexVersion := c.version })
  := by
  rw [build, known, askedOmission]
  dsimp only
  cases leavesOmission (option? options "omission_scan") <;> rfl

theorem known_iff :
  (Entries.keys options).findSome? optionFault? = none
    ↔ ∀ name ∈ Entries.keys options, name ∈ optionNames
  := by simp only [List.findSome?_eq_none_iff, optionFault?_eq_none_iff]

theorem build_eq_ok_iff :
  build c options = .ok h ↔ Builds c options h
  := by
  cases found : (Entries.keys options).findSome? optionFault? with
  | some m =>
    rw [build_of_unknown found]
    refine iff_of_false (by simp) ?_
    intro builds
    rw [known_iff.mpr builds.buildable.names] at found
    cases found
  | none =>
    simp only [build_of_known found, bind_eq_ok, pure_eq_ok, optionOr_eq_ok_iff,
      requestedConfidence_eq_ok_iff, keyOf_eq_ok_iff, refusals_askedOmission]
    constructor
    · rintro ⟨_, ⟨mode, rfl⟩, _, ⟨tier, rfl⟩, _, ⟨citation, rfl⟩, _, ⟨omission, rfl⟩, _,
        ⟨confidence, rfl⟩, key, keyed, x, enforced, rfl⟩
      exact {
        buildable := {
          names := known_iff.mp found
          read := by simp [buildRefusals, wordRefusals, mode, tier, citation, omission, confidence]
          profile := ⟨key, keyed⟩ }
        mode := rfl
        tier := rfl
        citation := rfl
        omission := rfl
        confidence := enforced
        profile := ⟨key, keyed, rfl⟩
        version := rfl }
    · intro builds
      have read := builds.buildable.read
      simp only [buildRefusals, wordRefusals, List.append_eq_nil_iff, and_assoc] at read
      obtain ⟨mode, tier, citation, omission, confidence⟩ := read
      obtain ⟨key, keyed, profile⟩ := builds.profile
      refine ⟨_, ⟨mode, rfl⟩, _, ⟨tier, rfl⟩, _, ⟨citation, rfl⟩, _, ⟨omission, rfl⟩, _,
        ⟨confidence, rfl⟩, key, keyed, h.minConfidence, ?_, ?_⟩
      · rw [← builds.tier, ← builds.mode]
        exact builds.confidence
      · rw [← builds.tier, ← builds.mode, ← builds.citation, ← builds.omission, ← profile,
          ← builds.version]

/-! ### Options of which nothing is built -/

/-- Why no handshake is built of options that there are. -/
inductive Declines (c : Codex) (options : Entries Text Value) : Fault → Prop where
  /-- An option is refused, the first of them if there are several. -/
  | refused {r : Rejection} (first : (buildRefusals options).head? = some r) :
    Declines c options (.rejected r)
  /-- The profile cannot be looked up. -/
  | unkeyed (read : buildRefusals options = []) (unkeyed : (wantedProfile c options).key? = none) :
    Declines c options (.mismatch (.noKey (wantedProfile c options).kind))

theorem Declines.not_buildable {e : Fault} (declines : Declines c options e) :
  ¬ Buildable c options
  := by
  intro buildable
  cases declines with
  | refused first =>
    rw [buildable.read] at first
    cases first
  | unkeyed _ unkeyed =>
    obtain ⟨key, keyed⟩ := buildable.profile
    rw [unkeyed] at keyed
    cases keyed

theorem Declines.unique {e e' : Fault} (declines : Declines c options e)
    (declines' : Declines c options e') :
  e = e'
  := by
  cases declines with
  | refused first =>
    cases declines' with
    | refused first' =>
      rw [first] at first'
      cases first'
      rfl
    | unkeyed read _ =>
      rw [read] at first
      cases first
  | unkeyed read _ =>
    cases declines' with
    | refused first =>
      rw [read] at first
      cases first
    | unkeyed _ _ => rfl

variable (wellFormed : c.WellFormed)
  (names : ∀ name ∈ Entries.keys options, name ∈ optionNames)

include wellFormed names

theorem declines_of_build {e : Fault} (failed : build c options = .error e) :
  Declines c options e
  := by
  simp only [build_of_known (known_iff.mpr names), bind_eq_error, optionOr_eq_ok_iff,
    optionOr_eq_error_iff, requestedConfidence_eq_ok_iff, requestedConfidence_eq_error_iff,
    keyOf_eq_error_iff, refusals_askedOmission] at failed
  obtain ⟨r, mode, rfl⟩ | ⟨_, ⟨mode, -⟩, failed⟩ := failed
  · exact .refused (by simp [buildRefusals, wordRefusals, mode])
  obtain ⟨r, tier, rfl⟩ | ⟨_, ⟨tier, -⟩, failed⟩ := failed
  · exact .refused (by simp [buildRefusals, wordRefusals, mode, tier])
  obtain ⟨r, citation, rfl⟩ | ⟨_, ⟨citation, -⟩, failed⟩ := failed
  · exact .refused (by simp [buildRefusals, wordRefusals, mode, tier, citation])
  obtain ⟨r, omission, rfl⟩ | ⟨_, ⟨omission, -⟩, failed⟩ := failed
  · exact .refused (by simp [buildRefusals, wordRefusals, mode, tier, citation, omission])
  have words : wordRefusals options = [] := by
    simp [wordRefusals, mode, tier, citation, omission]
  obtain ⟨r, confidence, rfl⟩ | ⟨_, ⟨confidence, -⟩, failed⟩ := failed
  · exact .refused (by simp [buildRefusals, words, confidence])
  obtain ⟨unkeyed, rfl⟩ | ⟨key, -, failed⟩ := failed
  · exact .unkeyed (by simp [buildRefusals, words, confidence]) unkeyed
  -- Whatever confidence is asked for, some is enforced, and nothing else can fail.
  obtain failed | ⟨x, -, failed⟩ := failed
  · obtain ⟨x, enforced⟩ := enforce_of_wellFormed wellFormed _ _ _
    rw [enforced] at failed
    cases failed
  · cases failed

theorem build_eq_error_iff {e : Fault} :
  build c options = .error e ↔ Declines c options e
  := by
  constructor
  · exact declines_of_build wellFormed names
  · intro declines
    cases result : build c options with
    | ok h => exact absurd (build_eq_ok_iff.mp result).buildable declines.not_buildable
    | error e' => rw [declines.unique (declines_of_build wellFormed names result)]

theorem exists_build_iff :
  (∃ h, build c options = .ok h) ↔ Buildable c options
  := by
  constructor
  · rintro ⟨h, built⟩
    exact (build_eq_ok_iff.mp built).buildable
  · intro buildable
    cases result : build c options with
    | ok h => exact ⟨h, rfl⟩
    | error e => exact absurd buildable (declines_of_build wellFormed names result).not_buildable

end ReflexPolicy.Handshake
