import ReflexPolicy.Proofs.Handshake.Floor

/-!
# Changes that are ignored

An update ignores the changes that it reports: without them it comes to the same handshake and
reports nothing.  Only a confidence that is refused leaves a trace, and only where the tier or the
mode becomes another one: there the handshake holds on to the confidence that it had, whereas
without that change it takes the floor of where it has come to.
-/

namespace ReflexPolicy

/-- The option that a report is about. -/
def Rejection.field? : Rejection → Option Text
  | unknownMode _ => some "mode"
  | unknownTier _ => some "tier"
  | unknownCitation _ => some "cite_policy"
  | unknownOmission _ => some "omission_scan"
  | unknownProfile _ => some "reflex_profile"
  | confidenceOutside _ => some "min_confidence"
  | unknownField name => some name
  | _ => none

namespace Handshake

/-- The options that some reports are about. -/
def reportedFields (reports : List Rejection) : List Text := reports.filterMap Rejection.field?

/-- Changes without those that some reports are about. -/
def ignoring (reports : List Rejection) (changes : Entries Text Value) : Entries Text Value :=
  Entries.without changes (reportedFields reports).contains

variable {c : Codex} {base h : Handshake} {changes : Entries Text Value}
  {reports : List Rejection} {name : Text} {v : Value} {r : Rejection}

/-! ### What is left of the changes -/

/-- A refusal is about the option whose value is refused. -/
theorem Refuses.field? (refuses : Refuses c name v r) :
  r.field? = some name
  := by
  obtain quotes | ⟨-, rfl⟩ := refuses.mem_refusalsOf
  · have each : ∀ e ∈ refusalsOf v, e.2.field? = some e.1 := by
      simp [refusalsOf, Rejection.field?]
    exact each _ quotes
  · rfl

/-- The options that are reported are those whose values are refused. -/
theorem mem_reportedFields_iff :
  name ∈ reportedFields (reportsOf c changes)
    ↔ ∃ v r, Entries.get? changes name = some v ∧ Refuses c name v r
  := by
  simp only [reportedFields, List.mem_filterMap, mem_reportsOf_iff]
  constructor
  · rintro ⟨r, ⟨name', v, given, refuses⟩, field⟩
    rw [refuses.field?] at field
    cases field
    exact ⟨v, r, given, refuses⟩
  · rintro ⟨v, r, given, refuses⟩
    exact ⟨r, ⟨name, v, given, refuses⟩, refuses.field?⟩

/-- What is left are the changes that are not reported. -/
theorem get?_ignoring :
  Entries.get? (ignoring reports changes) name
    = if name ∈ reportedFields reports then none else Entries.get? changes name
  := by
  have respects (a b : Text) (same : (a == b) = true) :
      (reportedFields reports).contains a = (reportedFields reports).contains b := by
    rw [eq_of_beq same]
  simp only [ignoring, Entries.get?_without_of_respects changes respects, List.contains_iff_mem]

theorem option?_ignoring :
  option? (ignoring reports changes) name
    = if name ∈ reportedFields reports then none else option? changes name
  := by
  rw [option?, get?_ignoring]
  split <;> rfl

theorem mem_keys_of_ignoring (mem : name ∈ Entries.keys (ignoring reports changes)) :
  name ∈ Entries.keys changes
  := by
  rw [Entries.mem_keys_iff] at mem ⊢
  obtain ⟨v, left⟩ := mem
  rw [get?_ignoring] at left
  split at left
  · cases left
  · exact ⟨v, left⟩

/-- Nothing of what is left is reported. -/
theorem reportsOf_ignoring :
  reportsOf c (ignoring (reportsOf c changes) changes) = []
  := by
  rw [List.eq_nil_iff_forall_not_mem]
  intro r mem
  obtain ⟨name, v, left, refuses⟩ := mem_reportsOf_iff.mp mem
  rw [get?_ignoring] at left
  split at left
  · cases left
  · rename_i unreported
    exact unreported (mem_reportedFields_iff.mpr ⟨v, r, left, refuses⟩)

/-! ### Single fields -/

/-- A field comes to the same: a change that is reported keeps what was there, and so does none. -/
theorem value_change_ignoring {α : Type} {parse : Value → Except Rejection α}
    (reads : ∀ v r, Refuses c name v r ↔ v.isNull = false ∧ parse v = .error r) (base : α) :
  (change parse (option? changes name) base).value
    = (change parse (option? (ignoring (reportsOf c changes) changes) name) base).value
  := by
  rw [option?_ignoring]
  split
  · rename_i reported
    obtain ⟨v, r, given, refuses⟩ := mem_reportedFields_iff.mp reported
    obtain ⟨present, unread⟩ := (reads v r).mp refuses
    rw [option?_eq_some_iff.mpr ⟨given, present⟩, change_of_refused unread]
    rfl
  · rfl

theorem value_change_omission_ignoring (base : OmissionOverride) :
  (change OmissionOverride.parse (Entries.get? changes "omission_scan") base).value
    = (change OmissionOverride.parse
      (Entries.get? (ignoring (reportsOf c changes) changes) "omission_scan") base).value
  := by
  rw [get?_ignoring]
  split
  · rename_i reported
    obtain ⟨v, r, given, refuses⟩ := mem_reportedFields_iff.mp reported
    have unread : OmissionOverride.parse v = .error r := by
      simpa [refuses_iff, Text.ofString_inj, optionNames] using refuses
    rw [given, change_of_refused unread]
    rfl
  · rfl

/-- Nothing is left of a confidence that is reported, and the one that was held is asked for as long
as neither the tier nor the mode becomes another one. -/
theorem requested_ignoring_of_reported
    (reported : ("min_confidence" : Text) ∈ reportedFields reports) :
  requested base h (ignoring reports changes)
    = if Moved base h then none else some base.minConfidence
  := by
  rw [requested, option?_ignoring, if_pos reported]
  simp [change]

/-- A confidence that is not reported is left, and asks for the same. -/
theorem requested_ignoring_of_unreported
    (unreported : ("min_confidence" : Text) ∉ reportedFields reports) :
  requested base h (ignoring reports changes) = requested base h changes
  := by rw [requested, requested, option?_ignoring, if_neg unreported]

/-! ### Updates without what they report -/

theorem Updatable.ignoring (updatable : Updatable c changes) :
  Updatable c (ignoring reports changes)
  where
    names := fun name mem => updatable.names name (mem_keys_of_ignoring mem)
    profile := by
      intro w left
      rw [option?_ignoring] at left
      split at left
      · cases left
      · exact updatable.profile w left
    confidence := by
      intro w left
      rw [option?_ignoring] at left
      split at left
      · cases left
      · exact updatable.confidence w left

/-- Without the changes that are reported an update comes to the same, with the confidence that is
then enforced, and it reports nothing. -/
theorem Updates.ignoring (updates : Updates c base changes h reports) {x : Binary64}
    (enforced : enforce c h.tier h.mode (requested base h (ignoring reports changes)) = .ok x) :
  Updates c base (ignoring reports changes) { h with minConfidence := x } []
  := by
  have reported := updates.reports
  subst reported
  exact {
    updatable := updates.updatable.ignoring
    mode := by
      rw [updates.mode]
      apply value_change_ignoring
      simp [refuses_iff, Text.ofString_inj, optionNames]
    tier := by
      rw [updates.tier]
      apply value_change_ignoring
      simp [refuses_iff, Text.ofString_inj, optionNames]
    citation := by
      rw [updates.citation]
      apply value_change_ignoring
      simp [refuses_iff, Text.ofString_inj, optionNames]
    omission := by
      rw [updates.omission]
      apply value_change_omission_ignoring
    profile := by
      rw [updates.profile]
      apply value_change_ignoring
      simp [refuses_iff, Text.ofString_inj, optionNames]
    confidence := enforced
    version := updates.version
    reports := reportsOf_ignoring.symm }

/-- A confidence that is reported asks for the one that was held. -/
theorem Updates.requested_of_reported (updates : Updates c base changes h reports)
    (reported : ("min_confidence" : Text) ∈ reportedFields reports) :
  requested base h changes = some base.minConfidence
  := by
  rw [updates.reports] at reported
  obtain ⟨v, r, given, refuses⟩ := mem_reportedFields_iff.mp reported
  exact requested_of_refused given refuses

/-- Unless a confidence was refused and the tier or the mode became another one, the handshake is
the same. -/
theorem Updates.ignoring_same (updates : Updates c base changes h reports)
    (still : ¬ (("min_confidence" : Text) ∈ reportedFields reports ∧ Moved base h)) :
  Updates c base (Handshake.ignoring reports changes) h []
  := by
  have same : requested base h (Handshake.ignoring reports changes) = requested base h changes := by
    by_cases refused : ("min_confidence" : Text) ∈ reportedFields reports
    · rw [requested_ignoring_of_reported refused, updates.requested_of_reported refused,
        if_neg fun moved => still ⟨refused, moved⟩]
    · exact requested_ignoring_of_unreported refused
  apply updates.ignoring
  rw [same, updates.confidence]

/-- Otherwise the floor takes the place of the confidence that was held. -/
theorem Updates.ignoring_moved (updates : Updates c base changes h reports)
    (refused : ("min_confidence" : Text) ∈ reportedFields reports) (moved : Moved base h) :
  enforce c h.tier h.mode (some base.minConfidence) = .ok h.minConfidence
    ∧ ∃ floor, c.minConfidence h.tier h.mode = .ok floor
      ∧ Updates c base (Handshake.ignoring reports changes) { h with minConfidence := floor } []
  := by
  have enforced := updates.confidence
  rw [updates.requested_of_reported refused] at enforced
  obtain ⟨floor, resolved, -⟩ := enforce_bounds enforced
  use enforced, floor, resolved
  apply updates.ignoring
  rw [requested_ignoring_of_reported refused, if_pos moved, enforce, resolved]
  rfl

/-- Changes that can be given by name, looked up and written. -/
structure Passable (changes : Entries Text Value) : Prop where
  names : ∀ name ∈ Entries.keys changes, name ∉ (["codex", "base"] : List Text)
  keyed : ∀ name v, Entries.get? changes name = some v → ∃ key, v.key? = some key
  written : ∀ name v, Entries.get? changes name = some v → v.isWritable = true

theorem Passable.updatable (passable : Passable changes) :
  Updatable c changes
  where
    names := passable.names
    profile := by
      intro w given
      obtain ⟨given, -⟩ := option?_eq_some_iff.mp given
      obtain ⟨key, keyed⟩ := passable.keyed _ w given
      exact ⟨key, keyed, .inr (passable.written _ w given)⟩
    confidence := fun w given => passable.written _ w (option?_eq_some_iff.mp given).1

/-- An update without the changes that were reported comes to the same handshake, and reports
nothing. Where a confidence was refused and the tier or the mode became another one, it comes to the
same but for its confidence: that is the floor, whereas the refused change had kept the confidence
that was held, raised to the floor. -/
theorem update_ignoring {v : Value} (loaded : Codex.ofValue v = .ok c) (base : Handshake)
    (changes : Entries Text Value) :
  (Passable changes → ∃ h reports, update c base changes = .ok (h, reports))
    ∧ ∀ h reports, update c base changes = .ok (h, reports) →
      (∀ name, name ∈ reportedFields reports
        ↔ ∃ w r, Entries.get? changes name = some w ∧ Refuses c name w r)
      ∧ ∃ h', update c base (ignoring reports changes) = .ok (h', [])
        ∧ if ("min_confidence" : Text) ∈ reportedFields reports ∧ Moved base h then
            h' = { h with minConfidence := h'.minConfidence }
              ∧ c.minConfidence h.tier h.mode = .ok h'.minConfidence
              ∧ enforce c h.tier h.mode (some base.minConfidence) = .ok h.minConfidence
          else h' = h
  := by
  constructor
  · intro passable
    exact update_of_updatable (Codex.wellFormed_of_loaded loaded) passable.updatable base
  · intro h reports updated
    have updates := update_eq_ok_iff.mp updated
    constructor
    · intro name
      rw [updates.reports, mem_reportedFields_iff]
    · split
      · rename_i both
        obtain ⟨enforced, floor, resolved, lowered⟩ := updates.ignoring_moved both.1 both.2
        exact ⟨_, update_eq_ok_iff.mpr lowered, rfl, resolved, enforced⟩
      · rename_i still
        exact ⟨h, update_eq_ok_iff.mpr (updates.ignoring_same still), rfl⟩

/-! ### A confidence that is refused -/

/-- Options of a high floor. -/
def highOptions : Entries Text Value := [("tier", .text "high"), ("mode", .text "careful")]

/-- Changes to a lower tier, of which all others are refused. -/
def strayChanges : Entries Text Value :=
  [("tier", .text "low"), ("mode", .text "hasty"), ("min_confidence", .int 7), ("note", .null)]

theorem passable_strayChanges :
  Passable strayChanges
  := by
  have each : ∀ e ∈ strayChanges, e.2.key?.isSome = true ∧ e.2.isWritable = true := by
    decide +kernel
  constructor
  case names => decide
  case keyed =>
    intro name v given
    obtain ⟨_, -, mem⟩ := Entries.mem_of_get? given
    exact Option.isSome_iff_exists.mp (each _ mem).1
  case written =>
    intro name v given
    obtain ⟨_, -, mem⟩ := Entries.mem_of_get? given
    exact (each _ mem).2

/-- The handshake holds on to its confidence for the sake of the refused one, and does not without
it. -/
theorem strayChanges_spec :
  ∃ c base h reports h', Codex.ofValue Codex.smallDocument = .ok c
    ∧ build c highOptions = .ok base ∧ update c base strayChanges = .ok (h, reports)
    ∧ update c base (ignoring reports strayChanges) = .ok (h', []) ∧ h' ≠ h
  := by
  have computed : passes (fun c => passes (fun base => passes (fun updated =>
      passes (fun again => again.2.isEmpty
        && decide (again.1.minConfidence ≠ updated.1.minConfidence))
        (update c base (ignoring updated.2 strayChanges))) (update c base strayChanges))
      (build c highOptions)) (Codex.ofValue Codex.smallDocument) = true := by decide +kernel
  obtain ⟨c, loaded, computed⟩ := exists_of_passes computed
  obtain ⟨base, built, computed⟩ := exists_of_passes computed
  obtain ⟨⟨h, reports⟩, updated, computed⟩ := exists_of_passes computed
  obtain ⟨⟨h', reports'⟩, ignored, computed⟩ := exists_of_passes computed
  rw [Bool.and_eq_true, List.isEmpty_iff, decide_eq_true_iff] at computed
  obtain ⟨rfl, differ⟩ := computed
  refine ⟨c, base, h, reports, h', loaded, built, updated, ignored, ?_⟩
  rintro rfl
  exact differ rfl

theorem update_ignoring_strayChanges :
  ∃ c base h reports h', Codex.ofValue Codex.smallDocument = .ok c ∧ Passable strayChanges
    ∧ update c base strayChanges = .ok (h, reports)
    ∧ update c base (ignoring reports strayChanges) = .ok (h', [])
    ∧ h' = { h with minConfidence := h'.minConfidence }
    ∧ c.minConfidence h.tier h.mode = .ok h'.minConfidence
    ∧ enforce c h.tier h.mode (some base.minConfidence) = .ok h.minConfidence
  := by
  obtain ⟨c, base, h, reports, low, loaded, -, updated, ignored, differ⟩ := strayChanges_spec
  obtain ⟨returns, ignores⟩ := update_ignoring loaded base strayChanges
  obtain ⟨_, _, updated'⟩ := returns passable_strayChanges
  rw [updated] at updated'
  cases updated'
  obtain ⟨-, h', ignored', result⟩ := ignores h reports updated
  rw [ignored] at ignored'
  cases ignored'
  split at result
  · exact ⟨c, base, h, reports, low, loaded, passable_strayChanges, updated, ignored, result⟩
  · exact absurd result differ

/-- A confidence that is refused is not without effect. -/
theorem held_strayChanges :
  ∃ c base h reports h', Codex.ofValue Codex.smallDocument = .ok c
    ∧ build c highOptions = .ok base ∧ Passable strayChanges
    ∧ update c base strayChanges = .ok (h, reports)
    ∧ update c base (ignoring reports strayChanges) = .ok (h', []) ∧ h' ≠ h
  := by
  obtain ⟨c, base, h, reports, h', loaded, built, updated, ignored, differ⟩ := strayChanges_spec
  exact ⟨c, base, h, reports, h', loaded, built, passable_strayChanges, updated, ignored, differ⟩

end Handshake

end ReflexPolicy
