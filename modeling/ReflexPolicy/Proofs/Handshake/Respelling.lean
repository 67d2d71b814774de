import ReflexPolicy.Proofs.Handshake.Floor

/-!
# Options that are spelled otherwise

A mode, a tier and an override may be spelled in several ways: in another case, with blanks around
it, as a flag.  An update comes to the same handshake however they are spelled.  So does building,
but for the omission scan: its bare word `auto` takes the default of the codex, whereas the other
spellings of that word leave the scan to the tier.
-/

namespace ReflexPolicy.Handshake

variable {c : Codex}

/-! ### Single options -/

section

variable {α : Type} {parse : Value → Except Rejection α} {v v' : Option Value}

/-- An option is the same, or it is spelled otherwise: it has another value that is read as the
same, or that cannot be read either. -/
inductive Respells (parse : Value → Except Rejection α) : Option Value → Option Value → Prop where
  | same (v : Option Value) : Respells parse v v
  | spelled {w w' : Value} (given : w.isNull = false) (given' : w'.isNull = false)
    (alike : (parse w).toOption = (parse w').toOption) : Respells parse (some w) (some w')

theorem Respells.symm (respells : Respells parse v v') :
  Respells parse v' v
  := by
  cases respells with
  | same => exact .same _
  | spelled given given' alike => exact .spelled given' given alike.symm

/-- An option that is spelled otherwise is given all the same. -/
theorem Respells.isSome (respells : Respells parse v v') :
  v.isSome = v'.isSome
  := by cases respells <;> rfl

/-- An absent value is not spelled otherwise. -/
theorem Respells.present (respells : Respells parse v v') :
  Respells parse (v.filter fun w => !w.isNull) (v'.filter fun w => !w.isNull)
  := by
  cases respells with
  | same => exact .same _
  | spelled given given' alike =>
    simp only [Option.filter, given, given', Bool.not_false, if_true]
    exact .spelled given given' alike

theorem Respells.value_change (respells : Respells parse v v') (base : α) :
  (change parse v base).value = (change parse v' base).value
  := by
  cases respells with
  | same => rfl
  | spelled _ _ alike =>
    rw [change, change]
    split <;> split <;> simp_all [Except.toOption]

theorem Respells.refusals_eq_nil_iff (respells : Respells parse v v') :
  refusals parse v = [] ↔ refusals parse v' = []
  := by
  cases respells with
  | same => rfl
  | spelled _ _ alike =>
    rw [refusals, refusals]
    split <;> split <;> simp_all [Except.toOption]

end

/-- The options leave the omission scan to the default of a codex. -/
def leavesDefault (options : Entries Text Value) : Bool :=
  leavesOmission (option? options "omission_scan")

theorem askedOmission_of_leaves {options : Entries Text Value}
    (leaves : leavesDefault options = true) :
  askedOmission options = none
  := if_pos leaves

/-! ### All options -/

/-- The options that are words. -/
def wordNames : List Text := ["mode", "tier", "cite_policy", "omission_scan"]

/-- Options are the same but for the spelling of words, and for their order. -/
structure Respelled (options options' : Entries Text Value) : Prop where
  once : (Entries.keys options).Nodup
  once' : (Entries.keys options').Nodup
  mode : Respells Mode.parse (Entries.get? options "mode") (Entries.get? options' "mode")
  tier : Respells Tier.parse (Entries.get? options "tier") (Entries.get? options' "tier")
  citation : Respells CitationOverride.parse (Entries.get? options "cite_policy")
    (Entries.get? options' "cite_policy")
  omission : Respells OmissionOverride.parse (Entries.get? options "omission_scan")
    (Entries.get? options' "omission_scan")
  other : ∀ name, name ∉ wordNames → Entries.get? options name = Entries.get? options' name

namespace Respelled

variable {options options' : Entries Text Value} (respelled : Respelled options options')

include respelled

theorem symm :
  Respelled options' options
  where
    once := respelled.once'
    once' := respelled.once
    mode := respelled.mode.symm
    tier := respelled.tier.symm
    citation := respelled.citation.symm
    omission := respelled.omission.symm
    other := fun name other => (respelled.other name other).symm

theorem mem_keys_iff {name : Text} :
  name ∈ Entries.keys options ↔ name ∈ Entries.keys options'
  := by
  have same : (Entries.get? options name).isSome = (Entries.get? options' name).isSome := by
    by_cases word : name ∈ wordNames
    · simp only [wordNames, List.mem_cons, List.not_mem_nil, or_false] at word
      obtain rfl | rfl | rfl | rfl := word
      · exact respelled.mode.isSome
      · exact respelled.tier.isSome
      · exact respelled.citation.isSome
      · exact respelled.omission.isSome
    · rw [respelled.other name word]
  rw [Entries.mem_keys_iff, Entries.mem_keys_iff, ← Option.isSome_iff_exists,
    ← Option.isSome_iff_exists, same]

theorem perm :
  (Entries.keys options).Perm (Entries.keys options')
  := (List.perm_ext_iff_of_nodup respelled.once respelled.once').mpr
    fun _ => respelled.mem_keys_iff

theorem option?_mode :
  Respells Mode.parse (option? options "mode") (option? options' "mode")
  := respelled.mode.present

theorem option?_tier :
  Respells Tier.parse (option? options "tier") (option? options' "tier")
  := respelled.tier.present

theorem option?_citation :
  Respells CitationOverride.parse (option? options "cite_policy") (option? options' "cite_policy")
  := respelled.citation.present

theorem option?_other {name : Text} (other : name ∉ wordNames) :
  option? options name = option? options' name
  := by rw [option?, option?, respelled.other name other]

/-! ### Updating -/

theorem updatable (updatable : Updatable c options) :
  Updatable c options'
  where
    names := fun name mem => updatable.names name (respelled.mem_keys_iff.mpr mem)
    profile := by
      rw [← respelled.option?_other (by decide)]
      exact updatable.profile
    confidence := by
      rw [← respelled.option?_other (by decide)]
      exact updatable.confidence

theorem requested_eq (base h : Handshake) :
  requested base h options = requested base h options'
  := by rw [requested, requested, respelled.option?_other (by decide)]

theorem updates {base h : Handshake} {reports : List Rejection}
    (updates : Updates c base options h reports) :
  Updates c base options' h (reportsOf c options')
  where
    updatable := respelled.updatable updates.updatable
    mode := by rw [updates.mode, respelled.option?_mode.value_change]
    tier := by rw [updates.tier, respelled.option?_tier.value_change]
    citation := by rw [updates.citation, respelled.option?_citation.value_change]
    omission := by rw [updates.omission, respelled.omission.value_change]
    profile := by rw [updates.profile, respelled.option?_other (by decide)]
    confidence := by rw [← respelled.requested_eq, updates.confidence]
    version := updates.version
    reports := rfl

/-- The reports are the same, but for the words that are refused. -/
theorem reportsOf_eq (same : wordRefusals options = wordRefusals options') :
  reportsOf c options = reportsOf c options'
  := by
  rw [reportsOf, reportsOf, same, unknownFields_congr respelled.perm,
    respelled.option?_other (by decide), respelled.option?_other (by decide)]

/-! ### Building -/

theorem buildRefusals_eq_nil (read : buildRefusals options = []) :
  buildRefusals options' = []
  := by
  simp only [buildRefusals, wordRefusals, List.append_eq_nil_iff, and_assoc] at read ⊢
  obtain ⟨mode, tier, citation, omission, confidence⟩ := read
  refine ⟨?_, ?_, ?_, ?_, ?_⟩
  · rwa [← respelled.option?_mode.refusals_eq_nil_iff]
  · rwa [← respelled.option?_tier.refusals_eq_nil_iff]
  · rwa [← respelled.option?_citation.refusals_eq_nil_iff]
  · rwa [← respelled.omission.refusals_eq_nil_iff]
  · rwa [← respelled.option?_other (by decide)]

theorem wantedProfile_eq :
  wantedProfile c options = wantedProfile c options'
  := by
  have same : Entries.get? options "reflex_profile" = Entries.get? options' "reflex_profile" :=
    respelled.other _ (by decide)
  rw [wantedProfile, wantedProfile, Entries.getD, Entries.getD, same]

theorem buildable (buildable : Buildable c options) :
  Buildable c options'
  where
    names := fun name mem => buildable.names name (respelled.mem_keys_iff.mpr mem)
    read := respelled.buildRefusals_eq_nil buildable.read
    profile := by
      rw [← respelled.wantedProfile_eq]
      exact buildable.profile

theorem builds {h : Handshake} (builds : Builds c options h) :
  Builds c options' { h with
    omission := (change OmissionOverride.parse (askedOmission options')
      c.handshakeDefaults.omission).value }
  where
    buildable := respelled.buildable builds.buildable
    mode := by rw [builds.mode, respelled.option?_mode.value_change]
    tier := by rw [builds.tier, respelled.option?_tier.value_change]
    citation := by rw [builds.citation, respelled.option?_citation.value_change]
    omission := rfl
    confidence := by
      rw [← respelled.option?_other (by decide)]
      exact builds.confidence
    profile := by
      rw [← respelled.wantedProfile_eq]
      exact builds.profile
    version := builds.version

theorem option?_omission :
  Respells OmissionOverride.parse (option? options "omission_scan")
    (option? options' "omission_scan")
  := respelled.omission.present

/-- Both leave the omission scan to the default, or both do not, so that it is the same. -/
theorem askedOmission_change (agree : leavesDefault options = leavesDefault options')
    (default : OmissionOverride) :
  (change OmissionOverride.parse (askedOmission options) default).value
    = (change OmissionOverride.parse (askedOmission options') default).value
  := by
  simp only [leavesDefault] at agree
  rw [askedOmission, askedOmission, agree]
  split
  · rfl
  · exact respelled.option?_omission.value_change default

/-- What leaves the omission scan to the default is spelled otherwise, and left to the tier. -/
theorem askedOmission_spelled (leaves : leavesDefault options = true)
    (spelled : leavesDefault options' = false) (default : OmissionOverride) :
  (change OmissionOverride.parse (askedOmission options') default).value = none
  := by
  rw [leavesDefault] at leaves spelled
  rw [askedOmission, if_neg (by simp [spelled])]
  have respells := respelled.option?_omission
  revert leaves spelled respells
  generalize option? options "omission_scan" = v
  generalize option? options' "omission_scan" = v'
  intro leaves spelled respells
  cases respells with
  | same =>
    rw [leaves] at spelled
    cases spelled
  | @spelled w w' _ _ alike =>
    rw [parse_of_leavesOmission leaves] at alike
    cases read : OmissionOverride.parse w' with
    | ok o =>
      rw [read] at alike
      cases alike
      rw [change_of_read read]
    | error r =>
      rw [read] at alike
      cases alike

end Respelled

/-- Options that are spelled otherwise come to the same in updates, but for the reports of the words
that are refused.  They come to the same in building too, unless only one of them leaves the
omission scan to the default: that one takes the default, and the other one leaves it to the tier.
-/
theorem respelled_alike {options options' : Entries Text Value}
    (respelled : Respelled options options') :
  ((∃ h, build c options = .ok h) ↔ ∃ h, build c options' = .ok h)
    ∧ (∀ h h', build c options = .ok h → build c options' = .ok h' →
      (leavesDefault options = leavesDefault options' → h' = h)
        ∧ (leavesDefault options = true → leavesDefault options' = false →
          h.omission = c.handshakeDefaults.omission ∧ h' = { h with omission := none }))
    ∧ (∀ base h, (∃ reports, update c base options = .ok (h, reports))
      ↔ ∃ reports, update c base options' = .ok (h, reports))
    ∧ (wordRefusals options = wordRefusals options' → ∀ base h reports,
      update c base options = .ok (h, reports) ↔ update c base options' = .ok (h, reports))
  := by
  refine ⟨?_, ?_, ?_, ?_⟩
  · constructor
    · rintro ⟨h, built⟩
      exact ⟨_, build_eq_ok_iff.mpr (respelled.builds (build_eq_ok_iff.mp built))⟩
    · rintro ⟨h, built⟩
      exact ⟨_, build_eq_ok_iff.mpr (respelled.symm.builds (build_eq_ok_iff.mp built))⟩
  · intro h h' built built'
    have builds := build_eq_ok_iff.mp built
    have same := build_eq_ok_iff.mpr (respelled.builds builds)
    rw [built'] at same
    obtain rfl := Except.ok.inj same
    constructor
    · intro agree
      rw [← respelled.askedOmission_change agree, ← builds.omission]
    · intro leaves spelled
      constructor
      · rw [builds.omission, askedOmission_of_leaves leaves]
        rfl
      · rw [respelled.askedOmission_spelled leaves spelled]
  · intro base h
    constructor
    · rintro ⟨reports, updated⟩
      exact ⟨_, update_eq_ok_iff.mpr (respelled.updates (update_eq_ok_iff.mp updated))⟩
    · rintro ⟨reports, updated⟩
      exact ⟨_, update_eq_ok_iff.mpr (respelled.symm.updates (update_eq_ok_iff.mp updated))⟩
  · intro same base h reports
    rw [update_eq_ok_iff, update_eq_ok_iff]
    constructor
    · intro updates
      rw [updates.reports, respelled.reportsOf_eq same]
      exact respelled.updates updates
    · intro updates
      rw [updates.reports, respelled.symm.reportsOf_eq same.symm]
      exact respelled.symm.updates updates

/-! ### A scan that is left to the tier -/

/-- A document whose handshakes have the omission scan. -/
def scanningDocument : Value :=
  Codex.smallDocumentWith [("handshake_defaults", .ofFields [("omission_scan", .text "on")])]

/-- Options that leave the omission scan to the default. -/
def plainOptions : Entries Text Value := [("mode", .text "recap"), ("omission_scan", .text "auto")]

/-- The same options in other spellings. -/
def flagOptions : Entries Text Value :=
  [("omission_scan", .text "AUTO"), ("mode", .text " --Recap")]

theorem respelled_flagOptions :
  Respelled plainOptions flagOptions
  where
    once := by decide
    once' := by decide
    mode := .spelled rfl rfl (by decide +kernel)
    tier := .same none
    citation := .same none
    omission := .spelled rfl rfl (by decide +kernel)
    other := by
      intro name other
      obtain ⟨mode, -, -, omission⟩ : name ≠ "mode" ∧ name ≠ "tier" ∧ name ≠ "cite_policy"
          ∧ name ≠ "omission_scan" := by simpa [wordNames] using other
      simp [plainOptions, flagOptions, Entries.get?, mode.symm, omission.symm]

theorem flagOptions_spec :
  ∃ c h h', Codex.ofValue scanningDocument = .ok c ∧ build c plainOptions = .ok h
    ∧ build c flagOptions = .ok h' ∧ h.omission ≠ h'.omission
  := by
  have computed : passes (fun c => passes (fun h => passes (fun h' =>
      decide (h.omission ≠ h'.omission)) (build c flagOptions)) (build c plainOptions))
      (Codex.ofValue scanningDocument) = true := by decide +kernel
  obtain ⟨c, loaded, computed⟩ := exists_of_passes computed
  obtain ⟨h, built, computed⟩ := exists_of_passes computed
  obtain ⟨h', built', computed⟩ := exists_of_passes computed
  exact ⟨c, h, h', loaded, built, built', of_decide_eq_true computed⟩

theorem respelled_alike_flagOptions :
  ∃ c h h', Codex.ofValue scanningDocument = .ok c ∧ Respelled plainOptions flagOptions
    ∧ build c plainOptions = .ok h ∧ build c flagOptions = .ok h'
    ∧ h.omission = c.handshakeDefaults.omission ∧ h' = { h with omission := none }
    ∧ ∀ base h reports, update c base plainOptions = .ok (h, reports)
      ↔ update c base flagOptions = .ok (h, reports)
  := by
  obtain ⟨c, h, h', loaded, built, built', -⟩ := flagOptions_spec
  obtain ⟨-, builds, -, updates⟩ := respelled_alike (c := c) respelled_flagOptions
  obtain ⟨default, spelled⟩ := (builds h h' built built').2 (by decide) (by decide)
  exact ⟨c, h, h', loaded, respelled_flagOptions, built, built', default, spelled,
    updates (by rfl)⟩

/-- The same options come to different handshakes. -/
theorem unscanned_flagOptions :
  ∃ c h h', Codex.ofValue scanningDocument = .ok c ∧ Respelled plainOptions flagOptions
    ∧ build c plainOptions = .ok h ∧ build c flagOptions = .ok h' ∧ h ≠ h'
  := by
  obtain ⟨c, h, h', loaded, built, built', differ⟩ := flagOptions_spec
  refine ⟨c, h, h', loaded, respelled_flagOptions, built, built', ?_⟩
  rintro rfl
  exact differ rfl

end ReflexPolicy.Handshake
