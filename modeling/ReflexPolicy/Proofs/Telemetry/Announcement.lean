import ReflexPolicy.Proofs.Evaluation.Relevance

/-!
# What a sink is told

An outcome is announced to a sink by one event, which shows its fields as they are, but for those
that the codex lists to be masked.  Whatever a sink does with the event, and whether it fails at it,
the outcome is what it is without a sink.  An evaluation that fails, and a codex that sends no
events, leave every sink alone.
-/

namespace ReflexPolicy

/-! ### Reports of an outcome -/

namespace Event

/-- The event shows a value under a name, or the mask if the codex lists the name. -/
def Shows (e : Event) (c : Codex) (name : String) (v : Value) : Prop :=
  Entries.get? e.payload (.text name)
    = some (if (name : Text) ∈ c.telemetry.redactFields then redacted else v)

/-- The event reports an outcome. -/
structure Reports (e : Event) (c : Codex) (o : Outcome) (now : Value) : Prop where
  name : e.name = if o.blockedBy.isSome then "analysis.blocked" else "analysis.complete"
  ofBlocked : ∀ h, o.blockedBy = some h →
    e.Shows c "reflex_id" (.text h.id) ∧ e.Shows c "score" (.float h.score)
  ofPassed : o.blockedBy = none →
    e.Shows c "fired_count" (.int o.fired.length)
      ∧ e.Shows c "need_citation" (.bool o.needCitation)
      ∧ e.Shows c "run_omission_scan" (.bool o.runOmissionScan)
      ∧ e.Shows c "context_expired" (.bool o.contextExpired)
  /-- The version and the time are shown even where the codex lists their names. -/
  version : Entries.get? e.payload (.text "codex_version") = some (.text c.version)
  time : Entries.get? e.payload (.text "timestamp") = some now

end Event

/-! ### Payloads -/

theorem get?_field (name : String) (v : Value) (k : Scalar) :
  Entries.get? [(.text name, v)] k = if k = .text name then some v else none
  := if_congr Scalar.text_same_iff rfl rfl

/-- A field that is added is found where nothing was. -/
theorem get?_addMissing (payload : Entries Scalar Value) (name : String) (v : Value)
    (k : Scalar) :
  Entries.get? (addMissing payload name v) k
    = (Entries.get? payload k).or (if k = .text name then some v else none)
  := by
  rw [addMissing]
  split
  · rename_i present
    cases given : Entries.get? payload k with
    | some found => rfl
    | none =>
      have other : k ≠ .text name := by
        rintro rfl
        rw [Entries.has, given] at present
        cases present
      rw [if_neg other]
      rfl
  · rw [Entries.get?_append, get?_field]

namespace Codex

theorem hides_iff (c : Codex) (name : Text) :
  c.hides (.text name) = true ↔ name ∈ c.telemetry.redactFields
  := by
  simp only [hides, List.any_eq_true, Scalar.same, beq_iff_eq]
  constructor
  · rintro ⟨_, listed, rfl⟩
    exact listed
  · intro listed
    exact ⟨_, listed, rfl⟩

theorem get?_redact (c : Codex) (payload : Entries Scalar Value) (name : Text) :
  Entries.get? (c.redact payload) (.text name) = (Entries.get? payload (.text name)).map fun v =>
    if name ∈ c.telemetry.redactFields then redacted else v
  := by
  rw [redact, Scalar.get?_map fun key v => if c.hides key then redacted else v]
  simp only [hides_iff]

variable {c : Codex} {o : Outcome} {now : Value}

/-! ### The event of an outcome -/

/-- A field of the announcement is shown by the event that is sent. -/
theorem shows_of_sent? {e : Event} (sent : c.sent? o now = some e) {name : String} {v : Value}
    (told : Entries.get? o.announcement.payload (.text name) = some v) :
  e.Shows c name v
  := by
  rw [sent?, outgoing?, payloadOf?_map] at sent
  split at sent
  · cases sent
    simp [Event.Shows, get?_addMissing, get?_redact, told]
  · cases sent

/-- A field that the announcement leaves open is added to the event that is sent. -/
theorem added_of_sent? {e : Event} (sent : c.sent? o now = some e) :
  Entries.get? e.payload (.text "codex_version") = some (.text c.version)
    ∧ Entries.get? e.payload (.text "timestamp") = some now
  := by
  have untold (name : String) (h : name = "codex_version" ∨ name = "timestamp") :
      Entries.get? o.announcement.payload (.text name) = none := by
    rw [Outcome.announcement]
    obtain rfl | rfl := h <;> split <;> rfl
  rw [sent?, outgoing?, payloadOf?_map] at sent
  split at sent
  · cases sent
    simp [get?_addMissing, get?_redact, untold, Text.ofString_inj]
  · cases sent

theorem reports_of_sent? {e : Event} (sent : c.sent? o now = some e) :
  e.Reports c o now
  := by
  have named : e.name = o.announcement.name := by
    rw [sent?, outgoing?, payloadOf?_map] at sent
    split at sent <;> cases sent
    rfl
  obtain ⟨version, time⟩ := added_of_sent? sent
  cases blockedBy : o.blockedBy with
  | some h =>
    have announced : o.announcement =
        { name := "analysis.blocked"
          payload := [(.text "reflex_id", .text h.id), (.text "score", .float h.score)] } := by
      rw [Outcome.announcement, blockedBy]
    exact {
      name := by rw [named, announced, blockedBy, Option.isSome_some, if_pos rfl]
      ofBlocked := by
        intro h' same
        rw [blockedBy, Option.some.injEq] at same
        subst same
        constructor
        all_goals
          apply shows_of_sent? sent
          rw [announced]
          rfl
      ofPassed := by simp [blockedBy]
      version := version
      time := time }
  | none =>
    have announced : o.announcement =
        { name := "analysis.complete"
          payload := [(.text "fired_count", .int o.fired.length),
            (.text "need_citation", .bool o.needCitation),
            (.text "run_omission_scan", .bool o.runOmissionScan),
            (.text "context_expired", .bool o.contextExpired)] } := by
      rw [Outcome.announcement, blockedBy]
    exact {
      name := by rw [named, announced, blockedBy, Option.isSome_none, if_neg (by decide)]
      ofBlocked := by simp [blockedBy]
      ofPassed := by
        intro _
        refine ⟨?_, ?_, ?_, ?_⟩
        all_goals
          apply shows_of_sent? sent
          rw [announced]
          rfl
      version := version
      time := time }

/-! ### The sink -/

theorem isSome_sent? (o : Outcome) (now : Value) (enabled : c.telemetry.enabled = true) :
  ∃ e, c.sent? o now = some e
  := by
  rw [sent?, outgoing?, payloadOf?_map, if_pos enabled]
  exact ⟨_, rfl⟩

theorem sent?_of_disabled (disabled : c.telemetry.enabled = false) :
  c.sent? o now = none
  := by
  rw [sent?, outgoing?, if_neg (by simp [disabled])]

variable {d : Draft} {σ : Type} (sink : Option (Sink σ)) (state : σ)

theorem evaluateWith_of_error {f : Fault} (failed : c.evaluate d = .error f) :
  c.evaluateWith d sink now state = (.error f, state)
  := by
  rw [evaluateWith, failed]

theorem evaluateWith_of_ok (answer : c.evaluate d = .ok o) :
  c.evaluateWith d sink now state = (.ok o, match sink, c.sent? o now with
    | some s, some e => (s.receive e state).2
    | _, _ => state)
  := by
  rw [evaluateWith, answer]
  rfl

/-- The outcome is the same with every sink and without one.  An evaluation that fails, and a codex
that sends no events, leave the sink alone; otherwise it receives one event, which reports the
outcome. -/
theorem evaluateWith_tells (c : Codex) (d : Draft) (now : Value) :
  (∀ (σ : Type) (sink : Option (Sink σ)) (state : σ),
      (c.evaluateWith d sink now state).1 = c.evaluate d)
    ∧ (∀ f, c.evaluate d = .error f → ∀ (σ : Type) (sink : Option (Sink σ)) (state : σ),
      (c.evaluateWith d sink now state).2 = state)
    ∧ (c.telemetry.enabled = false → ∀ (σ : Type) (sink : Option (Sink σ)) (state : σ),
      (c.evaluateWith d sink now state).2 = state)
    ∧ (∀ o, c.evaluate d = .ok o → c.telemetry.enabled = true →
      ∃ e : Event, e.Reports c o now ∧ ∀ (σ : Type) (sink : Sink σ) (state : σ),
        (c.evaluateWith d (some sink) now state).2 = (sink.receive e state).2)
  := by
  refine ⟨?outcome, ?failed, ?silent, ?told⟩
  case outcome =>
    intro σ sink state
    cases given : c.evaluate d with
    | error f => rw [evaluateWith_of_error sink state given]
    | ok o => rw [evaluateWith_of_ok sink state given]
  case failed =>
    intro f failed σ sink state
    rw [evaluateWith_of_error sink state failed]
  case silent =>
    intro disabled σ sink state
    cases given : c.evaluate d with
    | error f => rw [evaluateWith_of_error sink state given]
    | ok o =>
      rw [evaluateWith_of_ok sink state given, sent?_of_disabled disabled]
      cases sink <;> rfl
  case told =>
    intro o answer enabled
    obtain ⟨e, sent⟩ := isSome_sent? o now enabled
    use e, reports_of_sent? sent
    intro σ sink state
    rw [evaluateWith_of_ok (some sink) state answer, sent]

end Codex

/-- A sink that keeps the events and fails at every one of them. -/
def Sink.breaking : Sink (List Event) where
  receive e kept := (.error "sink is down", kept ++ [e])

namespace Codex

theorem evaluateWith_tells_breaking :
  ∃ c o e, ofValue smallDocument = .ok c ∧ c.evaluate smallDraft = .ok o
    ∧ Event.Reports e c o .null
    ∧ c.evaluateWith smallDraft (some Sink.breaking) .null [] = (.ok o, [e])
  := by
  have computed : passes (fun c => c.telemetry.enabled && (c.evaluate smallDraft).isOk)
      (ofValue smallDocument) = true := by decide +kernel
  obtain ⟨c, loaded, computed⟩ := exists_of_passes computed
  obtain ⟨enabled, answered⟩ := Bool.and_eq_true_iff.mp computed
  obtain ⟨o, answer⟩ := exists_of_isOk answered
  obtain ⟨same, -, -, told⟩ := evaluateWith_tells c smallDraft .null
  obtain ⟨e, reports, received⟩ := told o answer enabled
  refine ⟨c, o, e, loaded, answer, reports, Prod.ext ?_ ?_⟩
  · rw [same, answer]
  · rw [received]
    rfl

end Codex

end ReflexPolicy
