import ReflexPolicy.Proofs.Coalescer.Upkeep

/-!
# The phases of a session

Seen from one session a coalescer is a small machine: nothing is under way, or a window is open and
closes at some time, or a call runs.  `Stands` ties these phases to the slot of the session and to
what is scheduled for it.  Each theorem about a step says which phase a session is in after it.
-/

namespace ReflexPolicy.Coalescer

variable {σ α ρ : Type} [BEq σ]

/-- At the appointment the window of the session closes. -/
def closes (k : σ) (a : Appointment (Deed σ)) : Bool :=
  match a.deed with
  | .close k' => k' == k
  | _ => false

/-- At the appointment the call of the session ends. -/
def finishes (k : σ) (a : Appointment (Deed σ)) : Bool :=
  match a.deed with
  | .finish k' => k' == k
  | _ => false

namespace Moment

/-- The appointments that are still to be done. -/
def scheduled (m : Moment σ α ρ) : List (Appointment (Deed σ)) := m.state.agenda.members ++ m.due

/-- The live timers of a session. -/
def timers (m : Moment σ α ρ) (k : σ) : List (Appointment (Deed σ)) :=
  m.scheduled.filter fun a => closes k a && !m.state.isStale a

/-- The calls of a session that have not ended, by the appointments at which they will. -/
def executions (m : Moment σ α ρ) (k : σ) : List (Appointment (Deed σ)) :=
  m.scheduled.filter (finishes k)

/-- The agenda is filled, and no appointment has a number that is yet to be given. -/
structure Sound (m : Moment σ α ρ) : Prop where
  filled : m.state.agenda.Filled
  numbered : ∀ a ∈ m.scheduled, a.number < m.state.agenda.made

end Moment

/-- What is under way for a session. -/
inductive Phase (α : Type) where
  | idle
  /-- A window is open, which closes at some time. -/
  | waiting (closes : Nat) (waiters : List Nat) (args : α)
  | calling

/-- The waiters of the open window. -/
def Phase.waiters : Phase α → List Nat
  | waiting _ waiters _ => waiters
  | _ => []

/-- A window is open. -/
def Phase.isWaiting : Phase α → Bool
  | waiting _ _ _ => true
  | _ => false

/-- A call runs. -/
def Phase.isCalling : Phase α → Bool
  | calling => true
  | _ => false

/-- A session is in a phase. -/
inductive Stands (m : Moment σ α ρ) (k : σ) : Phase α → Prop where
  | idle (slot : Entries.get? m.state.slots k = none) (timers : m.timers k = [])
    (executions : m.executions k = []) : Stands m k .idle
  | waiting {a : Appointment (Deed σ)} {waiters : List Nat} {args : α}
    (slot : Entries.get? m.state.slots k = some
      { timer := some a.number, window := some waiters, args := some args, running := none })
    (timers : m.timers k = [a]) (executions : m.executions k = []) :
    Stands m k (.waiting a.due waiters args)
  | calling {call : Running α} {a : Appointment (Deed σ)}
    (slot : Entries.get? m.state.slots k = some
      { timer := none, window := none, args := none, running := some call })
    (timers : m.timers k = []) (executions : m.executions k = [a]) : Stands m k .calling

/-- A call of a session runs, and ends at an appointment. -/
structure Calling (m : Moment σ α ρ) (k : σ) (call : Running α) (a : Appointment (Deed σ)) :
    Prop where
  slot : Entries.get? m.state.slots k = some
    { timer := none, window := none, args := none, running := some call }
  timers : m.timers k = []
  executions : m.executions k = [a]

theorem Calling.stands {m : Moment σ α ρ} {k : σ} {call : Running α} {a : Appointment (Deed σ)}
    (calling : Calling m k call a) :
  Stands m k .calling
  := .calling calling.slot calling.timers calling.executions

theorem Stands.of_calling {m : Moment σ α ρ} {k : σ} (stands : Stands m k .calling) :
  ∃ call a, Calling m k call a
  := by
  cases stands with
  | calling slot timers executions => exact ⟨_, _, slot, timers, executions⟩

/-- A session is in one phase only. -/
theorem Stands.unique {m : Moment σ α ρ} {k : σ} {p p' : Phase α} (stands : Stands m k p)
    (stands' : Stands m k p') :
  p = p'
  := by
  cases stands with
  | idle slot =>
    cases stands' with
    | idle => rfl
    | waiting slot' => simp [slot] at slot'
    | calling slot' => simp [slot] at slot'
  | waiting slot timers =>
    cases stands' with
    | idle slot' => simp [slot] at slot'
    | waiting slot' timers' =>
      rw [timers] at timers'
      cases timers'
      rw [slot] at slot'
      cases slot'
      rfl
    | calling slot' => simp [slot] at slot'
  | calling slot =>
    cases stands' with
    | idle slot' => simp [slot] at slot'
    | waiting slot' => simp [slot] at slot'
    | calling => rfl

theorem Stands.of_waiting {m : Moment σ α ρ} {k : σ} {due : Nat} {waiters : List Nat} {args : α}
    (stands : Stands m k (.waiting due waiters args)) :
  ∃ a, a.due = due ∧ m.timers k = [a] ∧ m.executions k = []
    ∧ Entries.get? m.state.slots k = some
      { timer := some a.number, window := some waiters, args := some args, running := none }
  := by
  cases stands with
  | waiting slot timers executions => exact ⟨_, rfl, timers, executions, slot⟩

theorem slot_of_get? {s : State σ α ρ} {k : σ} {slot : Slot α}
    (given : Entries.get? s.slots k = some slot) :
  s.slot k = slot
  := by rw [State.slot, given, Option.getD_some]

theorem slot_of_none {s : State σ α ρ} {k : σ} (given : Entries.get? s.slots k = none) :
  s.slot k = Slot.idle
  := by rw [State.slot, given, Option.getD_none]

theorem Stands.window {m : Moment σ α ρ} {k : σ} {p : Phase α} (stands : Stands m k p) :
  (m.state.slot k).window.getD [] = p.waiters
  := by
  cases stands with
  | idle slot => rw [slot_of_none slot]; rfl
  | waiting slot => rw [slot_of_get? slot]; rfl
  | calling slot => rw [slot_of_get? slot]; rfl

theorem Stands.isPending {m : Moment σ α ρ} {k : σ} {p : Phase α} (stands : Stands m k p) :
  m.state.isPending k = p.isWaiting
  := by
  rw [State.isPending]
  cases stands with
  | idle slot => rw [slot_of_none slot]; rfl
  | waiting slot => rw [slot_of_get? slot]; rfl
  | calling slot => rw [slot_of_get? slot]; rfl

theorem Stands.isRunning {m : Moment σ α ρ} {k : σ} {p : Phase α} (stands : Stands m k p) :
  m.state.isRunning k = p.isCalling
  := by
  rw [State.isRunning]
  cases stands with
  | idle slot => rw [slot_of_none slot]; rfl
  | waiting slot => rw [slot_of_get? slot]; rfl
  | calling slot => rw [slot_of_get? slot]; rfl

/-- There is a slot unless nothing is under way. -/
theorem Stands.has {m : Moment σ α ρ} {k : σ} {p : Phase α} (stands : Stands m k p) :
  Entries.has m.state.slots k = (p.isWaiting || p.isCalling)
  := by
  rw [Entries.has]
  cases stands with
  | idle slot => rw [slot]; rfl
  | waiting slot => rw [slot]; rfl
  | calling slot => rw [slot]; rfl

theorem Stands.length_timers {m : Moment σ α ρ} {k : σ} {p : Phase α} (stands : Stands m k p) :
  (m.timers k).length = if p.isWaiting then 1 else 0
  := by
  cases stands with
  | idle _ timers => rw [timers]; rfl
  | waiting _ timers => rw [timers]; rfl
  | calling _ timers => rw [timers]; rfl

theorem Stands.length_executions {m : Moment σ α ρ} {k : σ} {p : Phase α}
    (stands : Stands m k p) :
  (m.executions k).length = if p.isCalling then 1 else 0
  := by
  cases stands with
  | idle _ _ executions => rw [executions]; rfl
  | waiting _ _ executions => rw [executions]; rfl
  | calling _ _ executions => rw [executions]; rfl

/-! ### Sessions that are the same -/

section

variable [EquivBEq σ]

theorem slot_congr (s : State σ α ρ) {k k' : σ} (same : (k == k') = true) :
  s.slot k = s.slot k'
  := by
  rw [State.slot, State.slot, Entries.get?_congr s.slots same]

theorem Act.Joins.congr {act : Act σ α ρ} {k k' : σ} {args : α} (same : (k == k') = true)
    (joins : act.Joins k args) :
  act.Joins k' args
  := by
  obtain ⟨k'', request, same', free⟩ := joins
  use k'', request, BEq.trans same' same
  rw [State.isRunning, ← slot_congr _ same]
  apply free

theorem Act.Touches.congr {act : Act σ α ρ} {k k' : σ} (same : (k == k') = true)
    (touches : act.Touches k) :
  act.Touches k'
  := by
  obtain ⟨args, joins⟩ | ⟨k'', request, same', pending⟩ := touches
  · exact .inl ⟨args, joins.congr same⟩
  · right
    use k'', request, BEq.trans same' same
    rw [State.isPending, ← slot_congr _ same]
    apply pending

theorem closes_congr {k k' : σ} (same : (k == k') = true) :
  closes k = closes k'
  := by
  funext a
  rw [closes, closes]
  cases a.deed <;> simp [BEq.congr_right same]

theorem finishes_congr {k k' : σ} (same : (k == k') = true) :
  finishes k = finishes k'
  := by
  funext a
  rw [finishes, finishes]
  cases a.deed <;> simp [BEq.congr_right same]

/-- Sessions that are the same are in the same phase. -/
theorem Stands.congr {m : Moment σ α ρ} {k k' : σ} {p : Phase α} (same : (k == k') = true)
    (stands : Stands m k p) :
  Stands m k' p
  := by
  have slots := Entries.get?_congr m.state.slots same
  have timers : m.timers k = m.timers k' := by
    rw [Moment.timers, Moment.timers, closes_congr same]
  have executions : m.executions k = m.executions k' := by
    rw [Moment.executions, Moment.executions, finishes_congr same]
  cases stands with
  | idle slot none nothing =>
    exact .idle (slots ▸ slot) (timers ▸ none) (executions ▸ nothing)
  | waiting slot one nothing =>
    exact .waiting (slots ▸ slot) (timers ▸ one) (executions ▸ nothing)
  | calling slot none one =>
    exact .calling (slots ▸ slot) (timers ▸ none) (executions ▸ one)

theorem Calling.congr {m : Moment σ α ρ} {k k' : σ} {call : Running α}
    {a : Appointment (Deed σ)} (same : (k == k') = true) (calling : Calling m k call a) :
  Calling m k' call a
  where
    slot := by
      rw [← Entries.get?_congr m.state.slots same]
      apply calling.slot
    timers := by
      rw [Moment.timers, ← closes_congr same]
      apply calling.timers
    executions := by
      rw [Moment.executions, ← finishes_congr same]
      apply calling.executions

/-- The live timers of a session are the appointments that its slot names. -/
theorem timers_eq (m : Moment σ α ρ) (k : σ) :
  m.timers k = m.scheduled.filter fun a => closes k a && (m.state.slot k).timer == some a.number
  := by
  apply List.filter_congr
  intro a _
  simp only [closes, State.isStale]
  cases a.deed with
  | close k' =>
    by_cases same : (k' == k) = true
    · simp [same, slot_congr m.state same, bne]
    · simp [same]
  | finish k' => rfl
  | wake => rfl

theorem timers_of_none {m : Moment σ α ρ} {k : σ} (none : (m.state.slot k).timer = none) :
  m.timers k = []
  := by
  rw [timers_eq, none]
  simp

end

/-! ### Steps that leave a session alone -/

/-- Nothing happens to a session from one moment to another: its slot stays, and what comes and
goes among the appointments is not for it. -/
structure Still (m m' : Moment σ α ρ) (k : σ) : Prop where
  slot : Entries.get? m'.state.slots k = Entries.get? m.state.slots k
  timers : (m'.timers k).Perm (m.timers k)
  executions : (m'.executions k).Perm (m.executions k)

theorem Still.refl (m : Moment σ α ρ) (k : σ) :
  Still m m k
  where
    slot := rfl
    timers := List.Perm.refl _
    executions := List.Perm.refl _

theorem Still.trans {m m' m'' : Moment σ α ρ} {k : σ} (first : Still m m' k)
    (second : Still m' m'' k) :
  Still m m'' k
  where
    slot := second.slot.trans first.slot
    timers := second.timers.trans first.timers
    executions := second.executions.trans first.executions

theorem Still.slot_eq {m m' : Moment σ α ρ} {k : σ} (still : Still m m' k) :
  m'.state.slot k = m.state.slot k
  := by rw [State.slot, State.slot, still.slot]

theorem Still.stands {m m' : Moment σ α ρ} {k : σ} (still : Still m m' k) {p : Phase α}
    (stands : Stands m k p) :
  Stands m' k p
  := by
  obtain ⟨same, timers, executions⟩ := still
  cases stands with
  | idle slot none nothing =>
    rw [none, List.perm_nil] at timers
    rw [nothing, List.perm_nil] at executions
    exact .idle (same.trans slot) timers executions
  | waiting slot one nothing =>
    rw [one, List.perm_singleton] at timers
    rw [nothing, List.perm_nil] at executions
    exact .waiting (same.trans slot) timers executions
  | calling slot none one =>
    rw [none, List.perm_nil] at timers
    rw [one, List.perm_singleton] at executions
    exact .calling (same.trans slot) timers executions

theorem Still.calling {m m' : Moment σ α ρ} {k : σ} {call : Running α}
    {a : Appointment (Deed σ)} (still : Still m m' k) (calling : Calling m k call a) :
  Calling m' k call a
  := by
  obtain ⟨slot, none, one⟩ := calling
  obtain ⟨same, timers, executions⟩ := still
  rw [none, List.perm_nil] at timers
  rw [one, List.perm_singleton] at executions
  exact ⟨same.trans slot, timers, executions⟩

/-- An appointment is for a session: it is its timer, or its call ends there. -/
def concerns (s : State σ α ρ) (k : σ) (a : Appointment (Deed σ)) : Bool :=
  closes k a && (s.slot k).timer == some a.number || finishes k a

/-- An appointment for one session is not for another one. -/
theorem concerns_of_elsewhere (s : State σ α ρ) {k k' : σ} {a : Appointment (Deed σ)}
    (deed : a.deed = .close k' ∨ a.deed = .finish k') (other : (k' == k) = false) :
  concerns s k a = false
  := by obtain deed | deed := deed <;> simp [concerns, closes, finishes, deed, other]

theorem concerns_of_still {m m' : Moment σ α ρ} {k : σ} (still : Still m m' k)
    (a : Appointment (Deed σ)) :
  concerns m'.state k a = concerns m.state k a
  := by rw [concerns, concerns, still.slot_eq]

section

variable [EquivBEq σ]

/-- What is scheduled for a session are its timer and the end of its call. -/
theorem mem_timers_executions_iff {m : Moment σ α ρ} {k : σ} {a : Appointment (Deed σ)} :
  a ∈ m.timers k ++ m.executions k ↔ a ∈ m.scheduled ∧ concerns m.state k a = true
  := by
  rw [List.mem_append, timers_eq, Moment.executions, List.mem_filter, List.mem_filter, concerns,
    Bool.or_eq_true, and_or_left]

theorem concerns_congr (s : State σ α ρ) {k k' : σ} (same : (k == k') = true)
    (a : Appointment (Deed σ)) :
  concerns s k a = concerns s k' a
  := by rw [concerns, concerns, closes_congr same, finishes_congr same, slot_congr s same]

/-- A session is left alone when only appointments come and go that are not for it. -/
theorem still_of_perm {m m' : Moment σ α ρ} {k : σ} (gone come : List (Appointment (Deed σ)))
    (slot : Entries.get? m'.state.slots k = Entries.get? m.state.slots k)
    (perm : (gone ++ m'.scheduled).Perm (come ++ m.scheduled))
    (others : ∀ a ∈ gone ++ come, concerns m.state k a = false) :
  Still m m' k
  := by
  have slots : m'.state.slot k = m.state.slot k := by
    rw [State.slot, State.slot, slot]
  have filtered (f : Appointment (Deed σ) → Bool)
      (part : ∀ a, f a = true → concerns m.state k a = true) :
      (m'.scheduled.filter f).Perm (m.scheduled.filter f) := by
    have none {as : List (Appointment (Deed σ))}
        (others : ∀ a ∈ as, concerns m.state k a = false) : as.filter f = [] := by
      rw [List.filter_eq_nil_iff]
      intro a mem yes
      have := part a yes
      rw [others a mem] at this
      cases this
    have := perm.filter f
    rw [List.filter_append, List.filter_append] at this
    rw [none fun a mem => others a (List.mem_append_left _ mem)] at this
    rw [none fun a mem => others a (List.mem_append_right _ mem)] at this
    apply this
  exact {
    slot := slot
    timers := by
      rw [timers_eq, timers_eq, slots]
      apply filtered
      intro a yes
      rw [concerns, yes, Bool.true_or]
    executions := by
      apply filtered
      intro a yes
      rw [concerns, yes, Bool.or_true] }

/-- Stale appointments are for nobody. -/
theorem concerns_of_isStale {s : State σ α ρ} {a : Appointment (Deed σ)}
    (stale : s.isStale a = true) (k : σ) :
  concerns s k a = false
  := by
  rw [State.isStale] at stale
  simp only [concerns, closes, finishes]
  cases deed : a.deed with
  | close k' =>
    simp only [deed] at stale
    by_cases same : (k' == k) = true
    · rw [slot_congr s same] at stale
      simpa [same] using stale
    · simp [same]
  | finish k' => simp [deed] at stale
  | wake => rfl

theorem live_of_concerns {s : State σ α ρ} {k : σ} {a : Appointment (Deed σ)}
    (mine : concerns s k a = true) :
  s.isStale a = false
  := by
  by_contra stale
  rw [Bool.not_eq_false] at stale
  rw [concerns_of_isStale stale k] at mine
  cases mine

end

end ReflexPolicy.Coalescer
