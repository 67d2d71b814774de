import ReflexPolicy.Proofs.Evaluation.Reference

/-!
# The answer to a request

With a codex that was loaded, every request that passes its checks is answered, and the answer is
the one that the rule of an evaluation gives.  That nothing is missing, and that no reflex fires
twice, is what loading a codex makes sure of.
-/

namespace ReflexPolicy.Codex

/-! ### Decisions after the scan -/

/-- Citations are needed, after some reflexes have fired: the caller says so, or leaves it open and
there is a reason for them. -/
def Cites (r : Request) (rules : TierPolicy) (fired : List Hit) : Prop :=
  r.citation = .force ∨ r.citation = .auto ∧
    (r.externalClaim = true ∨ rules.citationRequired = true
      ∨ (∃ h ∈ fired, rules.citationFloor.le h.score = true)
      ∨ fired = [] ∧ rules.citationFloor.le 0.5 = true)

/-- The session of the request has run longer than the codex allows. -/
def Expires (c : Codex) (r : Request) : Prop :=
  c.contextDecay.maxTurns < r.age.turns ∨ c.contextDecay.maxTokens < r.age.tokens

/-- A threshold is reached by the highest of some scores when it is reached by one of them. -/
theorem le_foldl_max {floor s : Binary64} {scores : List Binary64} (hs : s.isNan = false)
    (hscores : ∀ x ∈ scores, x.isNan = false) :
  floor.le (scores.foldl Binary64.max s) = true
    ↔ floor.le s = true ∨ ∃ x ∈ scores, floor.le x = true
  := by
  induction scores generalizing s with
  | nil => simp
  | cons x rest ih =>
    obtain ⟨hx, hrest⟩ := List.forall_mem_cons.mp hscores
    rw [List.foldl_cons, ih (Binary64.isNan_max hs hx) hrest, Binary64.le_max_iff hs hx,
      List.exists_mem_cons_iff, or_assoc]

theorem le_topScore {floor : Binary64} {fired : List Hit}
    (numbers : ∀ h ∈ fired, h.score.isNan = false) :
  floor.le (topScore (fired.map Hit.score)) = true
    ↔ (∃ h ∈ fired, floor.le h.score = true) ∨ fired = [] ∧ floor.le 0.5 = true
  := by
  cases fired with
  | nil => simp [topScore, neutralScore]
  | cons h rest =>
    obtain ⟨first, others⟩ := List.forall_mem_cons.mp numbers
    rw [List.map_cons, topScore, le_foldl_max first]
    · simp
    · intro x mem
      obtain ⟨h', mem', rfl⟩ := List.mem_map.mp mem
      apply others h' mem'

variable {c : Codex} {r : Request} {rules : TierPolicy}

theorem needsCitation_eq (tier : Entries.get? c.tiers r.tier = some rules) {fired : List Hit}
    (numbers : ∀ h ∈ fired, h.score.isNan = false) :
  ∃ cites, c.needsCitation r.tier (.float (topScore (fired.map Hit.score))) r.externalClaim
      r.citation = .ok cites
    ∧ (cites = true ↔ Cites r rules fired)
  := by
  simp only [needsCitation, Cites]
  cases r.citation with
  | force => exact ⟨true, rfl, by simp⟩
  | off => exact ⟨false, rfl, by simp⟩
  | auto =>
    rw [tierPolicy, tier]
    simp only [bind, Except.bind, pure, Except.pure, Except.ok.injEq, exists_eq_left']
    rw [Bool.or_eq_true, Bool.or_eq_true, Number.le_float, le_topScore numbers]
    constructor
    · rintro ((external | high) | required)
      · exact .inr ⟨trivial, .inl external⟩
      · exact .inr ⟨trivial, .inr (.inr high)⟩
      · exact .inr ⟨trivial, .inr (.inl required)⟩
    · rintro (forced | ⟨-, external | required | high⟩)
      · cases forced
      · exact .inl (.inl external)
      · exact .inr required
      · exact .inl (.inr high)

theorem runsOmissionScan_eq (tier : Entries.get? c.tiers r.tier = some rules) :
  ∃ scans, c.runsOmissionScan r.tier r.omission = .ok scans
    ∧ (∀ wanted, r.omission = some wanted → c.omissionOverridesAllowed = true → scans = wanted)
    ∧ (r.omission = none ∨ c.omissionOverridesAllowed = false → scans = rules.omissionScan)
  := by
  rw [runsOmissionScan]
  rw [tierPolicy, tier]
  cases r.omission with
  | none => exact ⟨rules.omissionScan, rfl, by simp⟩
  | some wanted =>
    use if c.omissionOverridesAllowed then wanted else rules.omissionScan, rfl
    cases c.omissionOverridesAllowed <;> simp

theorem isExpired_iff :
  c.isExpired (.whole r.age.turns) (.whole r.age.tokens) = true ↔ c.Expires r
  := by
  simp [isExpired, exceedsTurns, exceedsTokens, Number.lt_whole, Expires]

/-- The scores with which reflexes fire are numbers. -/
theorem isNan_of_mem_firing (units : ∀ id, (r.score id).isUnit = true) {ids : List Text} :
  ∀ h ∈ c.firing r ids, h.score.isNan = false
  := by
  intro h mem
  obtain ⟨id, -, rfl⟩ := List.mem_map.mp mem
  apply Binary64.isNan_of_isUnit (units id)

/-! ### The outcome -/

/-- The profile that a request asks for, or else the default one. -/
def Resolves (c : Codex) (r : Request) (p : Profile) : Prop :=
  c.profile? (.text r.profile) = some p
    ∨ c.profile? (.text r.profile) = none ∧ c.profile? (.text defaultProfile) = some p

/-- An outcome is the answer to a request, given the order in which the reflexes are looked at and
the rules of the tier. -/
structure Answers (c : Codex) (r : Request) (order : List Text) (rules : TierPolicy)
    (o : Outcome) : Prop where
  minConfidence : c.minConfidence r.tier r.mode = .ok o.minConfidence
  codexVersion : o.codexVersion = c.version
  profile : c.hasProfile (.text r.profile) = true ∧ o.profile = r.profile
    ∨ c.hasProfile (.text r.profile) = false ∧ o.profile = defaultProfile
  /-- The first reflex that blocks ends the evaluation. -/
  blocked : ∀ before id after, order = before ++ id :: after →
    (∀ i ∈ before, ¬c.Blocks r i) → c.Blocks r id →
      o.blockedBy = some ⟨id, r.score id⟩ ∧ o.fired = c.firing r before
      ∧ o.needCitation = true ∧ o.runOmissionScan = true ∧ o.contextExpired = false
  /-- If none blocks, then all are looked at and the decisions are taken. -/
  passed : (∀ id ∈ order, ¬c.Blocks r id) →
    o.blockedBy = none ∧ o.fired = c.firing r order
      ∧ (o.needCitation = true ↔ Cites r rules o.fired)
      ∧ (∀ wanted, r.omission = some wanted → c.omissionOverridesAllowed = true →
        o.runOmissionScan = wanted)
      ∧ (r.omission = none ∨ c.omissionOverridesAllowed = false →
        o.runOmissionScan = rules.omissionScan)
      ∧ (o.contextExpired = true ↔ c.Expires r)
  distinct : (o.fired.map Hit.id).Nodup

theorem resolves_of_wellFormed (wellFormed : c.WellFormed) (r : Request) :
  ∃ p, c.Resolves r p ∧ c.profileFor (.text r.profile) = .ok p ∧ p.order.Nodup
  := by
  have nodup {name : Scalar} {p : Profile} (given : c.profile? name = some p) :
      p.order.Nodup := by
    obtain ⟨name', -, mem⟩ := Entries.mem_of_get? given
    exact (wellFormed.orders _ mem).1
  simp only [Resolves, profileFor]
  cases asked : c.profile? (.text r.profile) with
  | some p => exact ⟨p, .inl rfl, rfl, nodup asked⟩
  | none =>
    obtain ⟨p, default, -⟩ := wellFormed.default
    rw [default]
    exact ⟨p, .inr ⟨rfl, rfl⟩, rfl, nodup default⟩

theorem minConfidence_of_wellFormed (wellFormed : c.WellFormed) (tier : Tier) (mode : Mode) :
  ∃ m, c.minConfidence tier mode = .ok m
  := by
  obtain ⟨p, tierGiven, -⟩ := wellFormed.tiers tier
  obtain ⟨q, modeGiven⟩ := wellFormed.modes mode
  simp only [minConfidence, tierPolicy, modePolicy]
  rw [tierGiven, modeGiven]
  exact ⟨_, rfl⟩

theorem usedProfile_eq (c : Codex) (name : Text) :
  c.hasProfile (.text name) = true ∧ c.usedProfile name = name
    ∨ c.hasProfile (.text name) = false ∧ c.usedProfile name = defaultProfile
  := by
  rw [usedProfile]
  cases c.hasProfile (.text name) <;> simp

theorem outcome_of_blocked {p : Profile} {m : Binary64} {fired : List Hit} {h : Hit}
    (floor : c.minConfidence r.tier r.mode = .ok m)
    (used : c.profileFor (.text r.profile) = .ok p)
    (found : c.scanned r p.order = { fired := fired, blockedBy := some h }) :
  c.outcome r = .ok
    { minConfidence := m
      fired := fired
      blockedBy := some h
      needCitation := true
      runOmissionScan := true
      contextExpired := false
      codexVersion := c.version
      profile := c.usedProfile r.profile }
  := by
  rw [scanned] at found
  simp only [outcome, floor, used, bind, Except.bind, found]
  rfl

theorem outcome_of_passed {p : Profile} {m : Binary64} {fired : List Hit} {cites scans : Bool}
    (floor : c.minConfidence r.tier r.mode = .ok m)
    (used : c.profileFor (.text r.profile) = .ok p)
    (found : c.scanned r p.order = { fired := fired, blockedBy := none })
    (citation : c.needsCitation r.tier (.float (topScore (fired.map Hit.score))) r.externalClaim
      r.citation = .ok cites)
    (omission : c.runsOmissionScan r.tier r.omission = .ok scans) :
  c.outcome r = .ok
    { minConfidence := m
      fired := fired
      blockedBy := none
      needCitation := cites
      runOmissionScan := scans
      contextExpired := c.isExpired (.whole r.age.turns) (.whole r.age.tokens)
      codexVersion := c.version
      profile := c.usedProfile r.profile }
  := by
  rw [scanned] at found
  simp only [outcome, floor, used, bind, Except.bind, found, citation, omission]
  rfl

/-- A well-formed codex answers every request whose scores are of the unit interval. -/
theorem outcome_answers (wellFormed : c.WellFormed) (units : ∀ id, (r.score id).isUnit = true) :
  ∃ p rules o, c.Resolves r p ∧ Entries.get? c.tiers r.tier = some rules
    ∧ c.outcome r = .ok o ∧ c.Answers r p.order rules o
  := by
  obtain ⟨p, resolves, used, nodup⟩ := resolves_of_wellFormed wellFormed r
  obtain ⟨m, floor⟩ := minConfidence_of_wellFormed wellFormed r.tier r.mode
  obtain ⟨rules, tier, -⟩ := wellFormed.tiers r.tier
  use p, rules
  obtain free | ⟨before, id, after, split, free, blocks⟩ := free_or_first c r p.order
  · have found := scanned_of_free free
    have numbers : ∀ h ∈ c.firing r p.order, h.score.isNan = false := isNan_of_mem_firing units
    obtain ⟨cites, citation, cites_iff⟩ := needsCitation_eq tier numbers
    obtain ⟨scans, omission, wanted, otherwise⟩ := runsOmissionScan_eq (c := c) tier
    refine ⟨_, resolves, tier, outcome_of_passed floor used found citation omission, ?_⟩
    exact {
      minConfidence := floor
      codexVersion := rfl
      profile := usedProfile_eq c r.profile
      blocked := by
        intro before id after split _ blocks
        exact absurd blocks (free id (by simp [split]))
      passed := by
        intro _
        exact ⟨rfl, rfl, cites_iff, wanted, otherwise, isExpired_iff⟩
      distinct := by
        rw [ids_firing]
        apply nodup.filter _ }
  · have found := scanned_of_first after free blocks
    rw [← split] at found
    refine ⟨_, resolves, tier, outcome_of_blocked floor used found, ?_⟩
    exact {
      minConfidence := floor
      codexVersion := rfl
      profile := usedProfile_eq c r.profile
      blocked := by
        intro before' id' after' split' free' blocks'
        -- Both splits are found by the same scan.
        have same := scanned_of_first after' free' blocks'
        rw [← split', found] at same
        injection same with fired blockedBy
        exact ⟨blockedBy, fired, rfl, rfl, rfl⟩
      passed := by
        intro none
        exact absurd blocks (none id (by simp [split]))
      distinct := by
        rw [split] at nodup
        rw [ids_firing]
        exact (List.nodup_append.mp nodup).1.filter _ }

theorem Resolves.unique {p p' : Profile} (resolves : c.Resolves r p)
    (resolves' : c.Resolves r p') :
  p = p'
  := by
  obtain asked | ⟨unknown, default⟩ := resolves
  · obtain asked' | ⟨unknown', -⟩ := resolves'
    · rw [asked] at asked'
      cases asked'
      rfl
    · rw [asked] at unknown'
      cases unknown'
  · obtain asked' | ⟨-, default'⟩ := resolves'
    · rw [unknown] at asked'
      cases asked'
    · rw [default] at default'
      cases default'
      rfl

theorem evaluate_of_validate {d : Draft} (valid : d.validate = .ok r) :
  c.evaluate d = c.outcome r
  := by
  rw [evaluate, valid]
  rfl

/-- What is told to a sink does not change the outcome. -/
theorem evaluateWith_fst {σ : Type} (c : Codex) (d : Draft) (sink : Option (Sink σ)) (now : Value)
    (state : σ) :
  (c.evaluateWith d sink now state).1 = c.evaluate d
  := by
  rw [evaluateWith]
  split <;> rename_i answer <;> rw [answer]

/-- A codex that was loaded answers every draft that passes its checks, and looks at no reflex
twice. -/
theorem evaluate_of_loaded {v : Value} {d : Draft} (loaded : ofValue v = .ok c)
    (valid : d.validate = .ok r) :
  ∃ p rules o, c.Resolves r p ∧ p.order.Nodup ∧ Entries.get? c.tiers r.tier = some rules
    ∧ c.evaluate d = .ok o ∧ c.Answers r p.order rules o
  := by
  have wellFormed := wellFormed_of_loaded loaded
  obtain ⟨p, rules, o, resolves, tier, answer, answers⟩ :=
    outcome_answers wellFormed (Request.isUnit_score valid)
  obtain ⟨p', resolves', -, nodup⟩ := resolves_of_wellFormed wellFormed r
  rw [resolves'.unique resolves] at nodup
  rw [← evaluate_of_validate valid] at answer
  exact ⟨p, rules, o, resolves, nodup, tier, answer, answers⟩

theorem outcome_of_loaded {v : Value} {d : Draft} (loaded : ofValue v = .ok c)
    (valid : d.validate = .ok r) :
  ∃ p rules o, c.Resolves r p ∧ p.order.Nodup ∧ c.outcome r = .ok o
    ∧ c.Answers r p.order rules o
  := by
  obtain ⟨p, rules, o, resolves, nodup, -, answer, answers⟩ := evaluate_of_loaded loaded valid
  rw [evaluate_of_validate valid] at answer
  exact ⟨p, rules, o, resolves, nodup, answer, answers⟩

/-- A codex that was loaded fails to evaluate a draft only if the draft is rejected or has a score
beyond the format. -/
theorem rejected_or_of_evaluate {v : Value} {c : Codex} {d : Draft} {e : Fault}
    (loaded : ofValue v = .ok c) (failed : c.evaluate d = .error e) :
  d.validate = .error e ∧ ((∃ r, e = .rejected r) ∨ e = .tooLarge ∧ d.Overflows)
  := by
  obtain invalid | ⟨r, valid, failed⟩ := bind_eq_error.mp failed
  · exact ⟨invalid, rejected_or_of_validate invalid⟩
  · obtain ⟨-, -, o, -, -, answer, -⟩ := outcome_of_loaded loaded valid
    rw [answer] at failed
    cases failed

/-- A draft for the small document.  Its profile is unknown and its scores leave one reflex out. -/
def smallDraft : Draft where
  tier := .text " High"
  mode := .text "careful"
  scores := .ofFields [("other", .int 1), ("claim", .float 0.95)]
  age := .counts (.int 21) (.int 0)
  externalClaim := .bool false
  citation := .null
  omission := .text "on"
  profile := .text "unknown"

theorem isOk_smallDraft :
  smallDraft.validate.isOk = true
  := by decide +kernel

end ReflexPolicy.Codex
