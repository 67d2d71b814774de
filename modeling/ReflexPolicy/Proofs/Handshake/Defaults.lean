import ReflexPolicy.Proofs.Handshake.Floor
import ReflexPolicy.Proofs.Request.Normal

/-!
# The defaults of a codex

What comes of a session that asks for nothing.  A request for the defaults of a codex that was
loaded is answered as its handshake has it, unless the profile of the defaults has no name: a codex
may have such a profile, and a handshake takes it up, but no request may ask for it.
-/

namespace ReflexPolicy.Handshake

/-- A draft asks for the defaults of a codex.  Nothing else about it is wrong. -/
structure AsksDefaults (c : Codex) (d : Draft) : Prop where
  tier : Tier.parse d.tier = .ok c.handshakeDefaults.tier
  mode : Mode.parse d.mode = .ok c.handshakeDefaults.mode
  citation : CitationOverride.parse d.citation = .ok c.handshakeDefaults.citation
  omission : OmissionOverride.parse d.omission = .ok c.handshakeDefaults.omission
  profile : d.profile = .text c.handshakeDefaults.profile
  scores : ∃ es scores, d.scores.entries? = some es ∧ checkScores es = .ok scores
  age : ∃ age, checkAge d.age = .ok age
  external : ∃ external, checkExternal d.externalClaim = .ok external

/-- An outcome is as a handshake has it. -/
structure Matches (h : Handshake) (o : Outcome) : Prop where
  minConfidence : o.minConfidence = h.minConfidence
  profile : .text o.profile = h.profile
  version : o.codexVersion = h.codexVersion

variable {c : Codex} {d : Draft}

/-- The handshake of the defaults takes them up as they are. -/
theorem build_nil {floor : Binary64}
    (resolved : c.minConfidence c.handshakeDefaults.tier c.handshakeDefaults.mode = .ok floor)
    (known : c.hasProfile (.text c.handshakeDefaults.profile) = true) :
  build c [] = .ok
    { mode := c.handshakeDefaults.mode
      tier := c.handshakeDefaults.tier
      minConfidence := floor
      citation := c.handshakeDefaults.citation
      omission := c.handshakeDefaults.omission
      profile := .text c.handshakeDefaults.profile
      codexVersion := c.version }
  := by
  have enforced : enforce c c.handshakeDefaults.tier c.handshakeDefaults.mode none = .ok floor := by
    rw [enforce, resolved]
    rfl
  have absent : Value.null.truthy = false := rfl
  simp [build, Entries.keys, option?, optionOr, leavesOmission, requestedConfidence,
    Entries.getD, Entries.get?, absent, keyOf, Value.key?, enforced, known, bind, Except.bind,
    pure, Except.pure]

/-! ### Drafts for the defaults -/

/-- The draft that spells out some defaults. -/
def spelledOut (defaults : HandshakeDefaults) (scores : Value) (age : DraftAge) : Draft where
  tier := .text defaults.tier.name
  mode := .text defaults.mode.name
  scores := scores
  age := age
  externalClaim := .bool false
  citation := .text defaults.citation.name
  omission := Request.omissionValue defaults.omission
  profile := .text defaults.profile

theorem asksDefaults_spelledOut (c : Codex) {scores : Value} {age : DraftAge}
    (scored : ∃ es checked, scores.entries? = some es ∧ checkScores es = .ok checked)
    (aged : ∃ checked, checkAge age = .ok checked) :
  AsksDefaults c (spelledOut c.handshakeDefaults scores age)
  where
    tier := parse_tier_name _
    mode := parse_mode_name _
    citation := parse_citation_name _
    omission := parse_omissionValue _
    profile := rfl
    scores := scored
    age := aged
    external := ⟨false, rfl⟩

/-- Nothing but the profile can be wrong with a draft for the defaults. -/
theorem AsksDefaults.validate (asks : AsksDefaults c d) :
  ∃ request : Text → Request,
    (∀ p, (request p).tier = c.handshakeDefaults.tier ∧ (request p).mode = c.handshakeDefaults.mode
      ∧ (request p).profile = p)
    ∧ d.validate
      = (Fault.ofRejection (checkProfile (.text c.handshakeDefaults.profile))).map request
  := by
  obtain ⟨es, scores, entries, checked⟩ := asks.scores
  obtain ⟨age, aged⟩ := asks.age
  obtain ⟨external, claimed⟩ := asks.external
  use fun p =>
    { tier := c.handshakeDefaults.tier
      mode := c.handshakeDefaults.mode
      scores := scores
      age := age
      externalClaim := external
      citation := c.handshakeDefaults.citation
      omission := c.handshakeDefaults.omission
      profile := p }
  constructor
  · intro p
    exact ⟨rfl, rfl, rfl⟩
  · rw [← asks.profile]
    simp only [Draft.validate, asks.tier, asks.mode, asks.citation, asks.omission, entries, checked,
      aged, claimed, Fault.ofRejection, bind, Except.bind, pure, Except.pure]
    cases checkProfile d.profile <;> rfl

/-- A draft for the defaults is answered as their handshake has it. -/
theorem AsksDefaults.answered (wellFormed : c.WellFormed) (asks : AsksDefaults c d)
    (named : c.handshakeDefaults.profile ≠ "") {h : Handshake} (built : build c [] = .ok h) :
  ∃ o, c.evaluate d = .ok o ∧ Matches h o
  := by
  obtain ⟨floor, resolved⟩ := Codex.minConfidence_of_wellFormed wellFormed
    c.handshakeDefaults.tier c.handshakeDefaults.mode
  rw [build_nil resolved wellFormed.handshake] at built
  cases built
  obtain ⟨request, spec, valid⟩ := asks.validate
  obtain ⟨tier, mode, profile⟩ := spec c.handshakeDefaults.profile
  rw [checkProfile_eq_ok_iff.mpr ⟨rfl, named⟩] at valid
  have units := Request.isUnit_score (r := request c.handshakeDefaults.profile) valid
  obtain ⟨p, rules, o, -, -, answer, answers⟩ := Codex.outcome_answers wellFormed units
  use o
  constructor
  · rw [Codex.evaluate_of_validate (r := request c.handshakeDefaults.profile) valid, answer]
  · exact {
      minConfidence := by
        have asked := answers.minConfidence
        rw [tier, mode, resolved] at asked
        cases asked
        rfl
      profile := by
        obtain ⟨-, used⟩ | ⟨unknown, -⟩ := answers.profile
        · rw [used, profile]
        · rw [profile, wellFormed.handshake] at unknown
          cases unknown
      version := answers.codexVersion }

/-- A draft for the defaults is rejected when their profile has no name. -/
theorem AsksDefaults.rejected (asks : AsksDefaults c d)
    (unnamed : c.handshakeDefaults.profile = "") :
  c.evaluate d = .error (.rejected (.profileNotText (.text "")))
  := by
  obtain ⟨request, -, valid⟩ := asks.validate
  rw [unnamed] at valid
  rw [Codex.evaluate, valid]
  rfl

/-- The handshake of the defaults of a codex that was loaded can be built.  A draft for them is
answered as the handshake has it, or, if their profile has no name, rejected for that. -/
theorem evaluate_defaults {v : Value} (loaded : Codex.ofValue v = .ok c) :
  ∃ h, build c [] = .ok h ∧ ∀ d, AsksDefaults c d →
    (c.handshakeDefaults.profile ≠ "" → ∃ o, c.evaluate d = .ok o ∧ Matches h o)
    ∧ (c.handshakeDefaults.profile = "" →
      c.evaluate d = .error (.rejected (.profileNotText (.text ""))))
  := by
  have wellFormed := Codex.wellFormed_of_loaded loaded
  obtain ⟨floor, resolved⟩ := Codex.minConfidence_of_wellFormed wellFormed
    c.handshakeDefaults.tier c.handshakeDefaults.mode
  have built := build_nil resolved wellFormed.handshake
  refine ⟨_, built, fun d asks => ⟨?_, asks.rejected⟩⟩
  intro named
  apply asks.answered wellFormed named built

/-! ### Small defaults -/

/-- A document whose defaults are not the least strict, with a profile that they name. -/
def defaultsDocument (profile : Text) : Value :=
  Codex.smallDocumentWith [
    ("profiles", .ofFields [("default", .list [.text "tone", .text "claim"]),
      ("strict", .list [.text "claim"]), ("", .list [.text "claim"])]),
    ("handshake_defaults", .ofFields [("tier", .text "high"), ("mode", .text "careful"),
      ("cite_policy", .text "force"), ("reflex_profile", .text profile)])]

/-- A draft for the defaults of a codex, with a score that blocks. -/
def smallDefaults (c : Codex) : Draft :=
  spelledOut c.handshakeDefaults (.ofFields [("claim", .float 0.95)]) (.counts (.int 3) (.int 40))

set_option maxRecDepth 4000 in
theorem asksDefaults_smallDefaults (c : Codex) :
  AsksDefaults c (smallDefaults c)
  := by
  apply asksDefaults_spelledOut
  · exact ⟨_, [("claim", 0.95)], rfl, rfl⟩
  · exact ⟨{ turns := 3, tokens := 40 }, rfl⟩

/-- The profile that the defaults of a document name, if it is loaded. -/
theorem profile_defaultsDocument (profile : Text)
    (computed : passes (fun c => decide (c.handshakeDefaults.profile = profile))
      (Codex.ofValue (defaultsDocument profile)) = true) :
  ∃ c, Codex.ofValue (defaultsDocument profile) = .ok c ∧ c.handshakeDefaults.profile = profile
  := by
  obtain ⟨c, loaded, named⟩ := exists_of_passes computed
  exact ⟨c, loaded, of_decide_eq_true named⟩

set_option maxRecDepth 4000 in
theorem evaluate_defaults_strict :
  ∃ c h o, Codex.ofValue (defaultsDocument "strict") = .ok c ∧ build c [] = .ok h
    ∧ AsksDefaults c (smallDefaults c) ∧ c.evaluate (smallDefaults c) = .ok o ∧ Matches h o
  := by
  obtain ⟨c, loaded, named⟩ := profile_defaultsDocument "strict" (by decide +kernel)
  obtain ⟨h, built, answered⟩ := evaluate_defaults loaded
  have asks := asksDefaults_smallDefaults c
  obtain ⟨o, answer, same⟩ := (answered (smallDefaults c) asks).1 (by
    rw [named]
    decide)
  exact ⟨c, h, o, loaded, built, asks, answer, same⟩

set_option maxRecDepth 4000 in
/-- A codex whose defaults name the profile without a name is loaded, and its handshake is built; but
no draft for its defaults is answered. -/
theorem rejected_unnamed :
  ∃ c h, Codex.ofValue (defaultsDocument "") = .ok c ∧ build c [] = .ok h
    ∧ AsksDefaults c (smallDefaults c)
    ∧ c.evaluate (smallDefaults c) = .error (.rejected (.profileNotText (.text "")))
  := by
  obtain ⟨c, loaded, unnamed⟩ := profile_defaultsDocument "" (by decide +kernel)
  have wellFormed := Codex.wellFormed_of_loaded loaded
  obtain ⟨floor, resolved⟩ := Codex.minConfidence_of_wellFormed wellFormed
    c.handshakeDefaults.tier c.handshakeDefaults.mode
  have asks := asksDefaults_smallDefaults c
  exact ⟨c, _, loaded, build_nil resolved wellFormed.handshake, asks, asks.rejected unnamed⟩

end ReflexPolicy.Handshake
