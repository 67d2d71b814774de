import ReflexPolicy.Proofs.Coalescer.Phase

/-!
# Requests and phases

A request keeps moments sound, and the phase of each session after it is determined by the phase
before: a submit that comes while no call of the session runs opens a window or lets it wait anew,
a cancel that finds a window gives it up, and all other requests leave the phase as it is.
-/

namespace ReflexPolicy.Coalescer

variable {σ α ρ : Type}

/-! ### Appointments that are made -/

theorem scheduled_appoint (m : Moment σ α ρ) (due : Nat) (deed : Deed σ) :
  (Moment.scheduled { m with state := m.state.appoint due deed }).Perm
    ({ due := due, number := m.state.agenda.made, deed := deed } :: m.scheduled)
  := (Agenda.members_add m.state.agenda due deed).append_right m.due

theorem sound_appoint {m : Moment σ α ρ} (sound : m.Sound) (due : Nat) (deed : Deed σ) :
  Moment.Sound { m with state := m.state.appoint due deed }
  where
    filled := Agenda.filled_add due deed sound.filled
    numbered := by
      intro a mem
      rw [(scheduled_appoint m due deed).mem_iff, List.mem_cons] at mem
      apply Nat.lt_succ_of_le
      obtain rfl | mem := mem
      · apply Nat.le_refl _
      · apply Nat.le_of_lt (sound.numbered a mem)

/-- A session is left alone by an appointment that is not for it. -/
theorem still_appoint [BEq σ] [EquivBEq σ] {m : Moment σ α ρ} (due : Nat) {deed : Deed σ} {k : σ}
    (other : concerns m.state k
      { due := due, number := m.state.agenda.made, deed := deed } = false) :
  Still m { m with state := m.state.appoint due deed } k
  := by
  apply still_of_perm [] [{ due := due, number := m.state.agenda.made, deed := deed }]
  · rfl
  · apply scheduled_appoint m due deed
  · simpa using other

/-- A waiter that is dropped is no matter of the sessions. -/
theorem drop_frame (s : State σ α ρ) (w : Nat) :
  (s.drop w).now = s.now ∧ (s.drop w).agenda = s.agenda ∧ (s.drop w).calls = s.calls
    ∧ (s.drop w).slots = s.slots
  := by
  rw [State.drop]
  split <;> exact ⟨rfl, rfl, rfl, rfl⟩

/-! ### Upkeep -/

variable [BEq σ] {c : Coalescer α ρ} {m : Moment σ α ρ}

theorem sound_of_trims {m' : Moment σ α ρ} (sound : m.Sound)
    (trims : m.state.Trims m'.state.agenda) (due : m'.due = m.due) :
  m'.Sound
  where
    filled := trims.filled sound.filled
    numbered := by
      intro a mem
      obtain ⟨gone, perm, -⟩ := trims.members sound.filled
      rw [trims.made]
      apply sound.numbered a
      rw [Moment.scheduled, List.mem_append] at mem ⊢
      rw [due] at mem
      obtain mem | mem := mem
      · exact .inl (perm.mem_iff.mpr (List.mem_append_right _ mem))
      · exact .inr mem

theorem sound_of_agenda {m' : Moment σ α ρ} (sound : m.Sound)
    (agenda : m'.state.agenda = m.state.agenda) (due : m'.due = m.due) :
  m'.Sound
  := by
  apply sound_of_trims sound _ due
  rw [agenda]
  apply m.state.trims_self

theorem sound_pass (sound : m.Sound) :
  Moment.Sound { m with state := m.state.pass }
  := sound_of_trims sound m.state.trims_pass rfl

theorem sound_tidy (sound : m.Sound) :
  Moment.Sound { m with state := m.state.tidy }
  := sound_of_trims sound m.state.trims_tidy rfl

/-- The appointment of a window that is given up stays where it is. -/
theorem abandon_frame (s : State σ α ρ) (k : σ) :
  (s.abandon k).now = s.now ∧ (s.abandon k).agenda = s.agenda ∧ (s.abandon k).calls = s.calls
  := by
  simp only [State.abandon, State.putUnlessIdle, State.settle, State.put]
  split
  · exact ⟨rfl, rfl, rfl⟩
  · split <;> exact ⟨rfl, rfl, rfl⟩

/-- A request takes no time and makes no call. -/
theorem apply_frame (c : Coalescer α ρ) (s : State σ α ρ) (q : Request σ α) :
  (c.apply s q).now = s.now ∧ (c.apply s q).calls = s.calls
  := by
  cases q with
  | submit k args =>
    rw [apply, submit]
    split
    · exact ⟨s.now_pass, s.calls_pass⟩
    · exact ⟨s.now_pass, s.calls_pass⟩
  | refused cause => exact ⟨s.now_pass, s.calls_pass⟩
  | cancel k =>
    obtain ⟨now, -, calls⟩ := abandon_frame s k
    constructor
    · apply (State.now_pass _).trans now
    · apply (State.calls_pass _).trans calls
  | probe k => exact ⟨rfl, rfl⟩
  | drop w =>
    obtain ⟨now, -, calls, -⟩ := drop_frame s w
    constructor
    · apply (State.now_pass _).trans now
    · apply (State.calls_pass _).trans calls

/-- With a request the agenda is looked after, and at most one appointment is made: that the window
of a submit closes.  What is stale then is stale in a state that has given up a window, perhaps. -/
theorem apply_agenda (c : Coalescer α ρ) (s : State σ α ρ) (q : Request σ α) :
  ∃ (s' : State σ α ρ) (agenda : Agenda (Deed σ)), s'.now = s.now ∧ s'.agenda = s.agenda
    ∧ s'.Trims agenda
    ∧ ((c.apply s q).agenda = agenda ∨ ∃ k args, q = .submit k args
      ∧ (c.apply s q).agenda = agenda.add (c.clock.after s.now c.wait) (.close k))
  := by
  cases q with
  | submit k args =>
    use s, s.pass.agenda, rfl, rfl, s.trims_pass
    rw [apply, submit]
    split
    · exact .inl rfl
    · right
      use k, args, rfl
      rw [s.now_pass]
      rfl
  | refused cause => exact ⟨s, _, rfl, rfl, s.trims_pass, .inl rfl⟩
  | cancel k =>
    obtain ⟨now, agenda, -⟩ := abandon_frame s k
    exact ⟨s.abandon k, _, now, agenda, State.trims_pass _, .inl rfl⟩
  | probe k => exact ⟨s, _, rfl, rfl, s.trims_self, .inl rfl⟩
  | drop w =>
    obtain ⟨now, agenda, -⟩ := drop_frame s w
    exact ⟨s.drop w, _, now, agenda, State.trims_pass _, .inl rfl⟩

theorem sound_ask (sound : m.Sound) (q : Request σ α) :
  Moment.Sound { m with state := c.apply m.state q }
  := by
  obtain ⟨s, agenda, -, same, trims, kept | ⟨k, -, -, added⟩⟩ := c.apply_agenda m.state q
  all_goals
    have before : Moment.Sound { m with state := s } := sound_of_agenda sound same rfl
    have trimmed : Moment.Sound { m with state := { s with agenda := agenda } } :=
      sound_of_trims before trims rfl
  · exact sound_of_agenda trimmed kept rfl
  · exact sound_of_agenda (sound_appoint trimmed _ (.close k)) added rfl

variable [EquivBEq σ]

theorem still_of_trims {m' : Moment σ α ρ} (sound : m.Sound)
    (slots : m'.state.slots = m.state.slots) (trims : m.state.Trims m'.state.agenda)
    (due : m'.due = m.due) (k : σ) :
  Still m m' k
  := by
  obtain ⟨gone, perm, stale⟩ := trims.members sound.filled
  apply still_of_perm gone []
  · rw [slots]
  · rw [Moment.scheduled, Moment.scheduled, due, List.nil_append, ← List.append_assoc]
    apply perm.symm.append_right _
  · rw [List.append_nil]
    exact fun a mem => concerns_of_isStale (stale a mem) k

/-- A session is left alone when neither its slot nor what is scheduled changes. -/
theorem still_of_slot {m' : Moment σ α ρ} {k : σ}
    (slot : Entries.get? m'.state.slots k = Entries.get? m.state.slots k)
    (agenda : m'.state.agenda = m.state.agenda) (due : m'.due = m.due) :
  Still m m' k
  := by
  apply still_of_perm [] [] slot
  · rw [Moment.scheduled, Moment.scheduled, agenda, due]
  · simp

theorem still_pass (sound : m.Sound) (k : σ) :
  Still m { m with state := m.state.pass } k
  := by
  apply still_of_trims sound
  · apply m.state.slots_pass
  · apply m.state.trims_pass
  · rfl

theorem still_tidy (sound : m.Sound) (k : σ) :
  Still m { m with state := m.state.tidy } k
  := by
  apply still_of_trims sound
  · apply m.state.slots_pass
  · apply m.state.trims_tidy
  · rfl

/-! ### Requests -/

theorem stands_joinWindow (sound : m.Sound) {k k' : σ} (same : (k == k') = true) {p : Phase α}
    (stands : Stands m k' p) (free : (m.state.slot k).running = none) (due : Nat) (args : α) :
  Stands { m with state := m.state.joinWindow k due args } k'
    (.waiting due (p.waiters ++ [m.state.submits]) args)
  := by
  let new : Appointment (Deed σ) :=
    { due := due, number := m.state.agenda.made, deed := .close k }
  let m' : Moment σ α ρ := { m with state := m.state.joinWindow k due args }
  have perm : m'.scheduled.Perm (new :: m.scheduled) :=
    (Agenda.members_add m.state.agenda due (.close k)).append_right m.due
  have slot : Entries.get? m'.state.slots k' = some
      { timer := some new.number, window := some (p.waiters ++ [m.state.submits])
        args := some args, running := none } := by
    have window := stands.window
    rw [← slot_congr m.state same] at window
    change Entries.get? (Entries.put m.state.slots k _) k' = _
    rw [Entries.get?_put, if_pos same, free, window]
  have timers : m'.timers k' = [new] := by
    rw [timers_eq, slot_of_get? slot, ← List.perm_singleton]
    apply (perm.filter _).trans
    rw [List.filter_cons_of_pos, List.filter_eq_nil_iff.mpr]
    · -- The numbers of the appointments before are less than the new one.
      intro a mem timer
      have less := sound.numbered a mem
      simp only [Bool.and_eq_true, beq_iff_eq, Option.some.injEq] at timer
      rw [← timer.2] at less
      apply Nat.lt_irrefl _ less
    · simp [closes, new, same]
  have executions : m'.executions k' = [] := by
    rw [← List.perm_nil]
    apply (perm.filter _).trans
    rw [List.filter_cons_of_neg (by simp [finishes, new])]
    rw [slot_congr m.state same] at free
    cases stands with
    | idle _ _ nothing => rw [← Moment.executions, nothing]
    | waiting _ _ nothing => rw [← Moment.executions, nothing]
    | calling given =>
      rw [slot_of_get? given] at free
      cases free
  exact .waiting slot timers executions

theorem still_joinWindow {k k' : σ} (other : (k == k') = false) (due : Nat) (args : α) :
  Still m { m with state := m.state.joinWindow k due args } k'
  := by
  apply still_of_perm [] [{ due := due, number := m.state.agenda.made, deed := .close k }]
  · simp only [State.joinWindow, State.put, State.appoint]
    rw [Entries.get?_put, other]
    rfl
  · exact (Agenda.members_add m.state.agenda due (.close k)).append_right m.due
  · simp [concerns, closes, finishes, other]

/-- A submit that shares a running call is its last waiter. -/
theorem calling_joinCall {k k' : σ} (same : (k == k') = true) {call : Running α}
    {a : Appointment (Deed σ)} (calling : Calling m k' call a) :
  Calling { m with state := m.state.joinCall k call } k'
    { call with waiters := call.waiters ++ [m.state.submits] } a
  := by
  have slots : Entries.get? (m.state.joinCall k call).slots k' = some
      { timer := none, window := none, args := none
        running := some { call with waiters := call.waiters ++ [m.state.submits] } } := by
    change Entries.get? (Entries.put m.state.slots k _) k' = _
    rw [Entries.get?_put, if_pos same, slot_congr m.state same, slot_of_get? calling.slot]
  exact {
    slot := slots
    timers := by
      apply timers_of_none
      rw [slot_of_get? slots]
    executions := calling.executions }

theorem still_joinCall {k k' : σ} (other : (k == k') = false) (call : Running α) :
  Still m { m with state := m.state.joinCall k call } k'
  := by
  apply still_of_slot
  · change Entries.get? (Entries.put m.state.slots k _) k' = _
    rw [Entries.get?_put, other]
    rfl
  · rfl
  · rfl

/-- A window that is given up leaves nothing. -/
theorem stands_abandon {k k' : σ} (same : (k == k') = true) {due : Nat} {waiters : List Nat}
    {args : α} (stands : Stands m k' (.waiting due waiters args)) :
  Stands { m with state := m.state.abandon k } k' .idle
  := by
  cases stands with
  | waiting slot _ nothing =>
  rw [← Entries.get?_congr m.state.slots same] at slot
  have abandoned : (m.state.abandon k).slots = m.state.slots.without (· == k)
      ∧ (m.state.abandon k).agenda = m.state.agenda := by
    simp [State.abandon, slot_of_get? slot, State.putUnlessIdle, Slot.isIdle, State.settle]
  have gone : Entries.get? (m.state.abandon k).slots k' = none := by
    rw [abandoned.1, Entries.get?_without, if_pos same]
  have timers : Moment.timers { m with state := m.state.abandon k } k' = [] := by
    apply timers_of_none
    rw [slot_of_none gone]
    rfl
  have executions : Moment.executions { m with state := m.state.abandon k } k' = [] := by
    rw [Moment.executions, Moment.scheduled, abandoned.2]
    apply nothing
  exact .idle gone timers executions

theorem still_abandon {k k' : σ} (other : (k == k') = false) :
  Still m { m with state := m.state.abandon k } k'
  := by
  have abandoned : Entries.get? (m.state.abandon k).slots k' = Entries.get? m.state.slots k'
      ∧ (m.state.abandon k).agenda = m.state.agenda := by
    simp only [State.abandon, State.putUnlessIdle, State.settle, State.put]
    split
    · exact ⟨rfl, rfl⟩
    · split
      · simp [Entries.get?_without, other]
      · simp [Entries.get?_put, other]
  exact still_of_slot abandoned.1 abandoned.2 rfl

/-- A submit that comes while no call runs lets the window wait anew, with its arguments. -/
theorem stands_of_joins (sound : m.Sound) {q : Request σ α} {k : σ} {args : α}
    (joins : Act.Joins { before := m, request := q } k args) {p : Phase α}
    (stands : Stands m k p) :
  Stands { m with state := c.apply m.state q } k
    (.waiting (c.clock.after m.state.now c.wait) (p.waiters ++ [m.state.submits]) args)
  := by
  obtain ⟨k', rfl, same, free⟩ := joins
  have passed := (still_pass sound k).stands stands
  have free' : (m.state.pass.slot k').running = none := by
    rw [slot_congr _ same, State.slot, State.slots_pass]
    simpa [State.isRunning, State.slot] using free
  have joined := stands_joinWindow (sound_pass sound) same passed free'
    (c.clock.after m.state.now c.wait) args
  simp only [State.submits_pass] at joined
  simp only [apply, submit, free', State.now_pass]
  apply joined

/-- A cancel that finds an open window leaves nothing of it. -/
theorem stands_of_leaves (sound : m.Sound) {q : Request σ α} {k : σ}
    (leaves : Act.Leaves { before := m, request := q } k) {p : Phase α} (stands : Stands m k p) :
  Stands { m with state := c.apply m.state q } k .idle
  := by
  obtain ⟨k', rfl, same, pending⟩ := leaves
  obtain ⟨due, waiters, args, rfl⟩ : ∃ due waiters args, p = .waiting due waiters args := by
    replace pending : p.isWaiting = true := by rw [← stands.isPending, pending]
    cases p with
    | idle => cases pending
    | waiting due waiters args => exact ⟨due, waiters, args, rfl⟩
    | calling => cases pending
  have abandoned : Moment.Sound { m with state := m.state.abandon k' } :=
    sound_of_agenda sound (abandon_frame m.state k').2.1 rfl
  apply Still.stands _ ((still_pass abandoned k).stands (stands_abandon same stands))
  exact still_of_slot rfl rfl rfl

/-- A cancel leaves a session alone unless it finds an open window of it. -/
theorem still_of_not_leaves {k k' : σ}
    (stays : ¬Act.Leaves { before := m, request := .cancel k' } k) :
  Still m { m with state := m.state.abandon k' } k
  := by
  by_cases same : (k' == k) = true
  · have closed : (m.state.slot k').window = none := by
      rw [slot_congr _ same]
      by_contra open_
      apply stays
      use k', rfl, same
      rw [State.isPending, Option.isSome_iff_ne_none]
      apply open_
    rw [State.abandon, closed]
    exact .refl m k
  · rw [Bool.not_eq_true] at same
    apply still_abandon same

/-- A request leaves a session alone unless it is a submit of it or gives up its window. -/
theorem still_of_elsewhere (sound : m.Sound) {q : Request σ α} {k : σ}
    (elsewhere : ∀ k' args, q = .submit k' args → (k' == k) = false)
    (stays : ¬Act.Leaves { before := m, request := q } k) :
  Still m { m with state := c.apply m.state q } k
  := by
  cases q with
  | submit k' args =>
    have other := elsewhere k' args rfl
    apply (still_pass sound k).trans
    simp only [apply, submit]
    split
    · apply still_joinCall other
    · apply still_joinWindow other
  | refused cause =>
    apply (still_pass sound k).trans
    exact still_of_slot rfl rfl rfl
  | cancel k' =>
    have abandoned : Moment.Sound { m with state := m.state.abandon k' } :=
      sound_of_agenda sound (abandon_frame m.state k').2.1 rfl
    apply ((still_of_not_leaves stays).trans (still_pass abandoned k)).trans
    exact still_of_slot rfl rfl rfl
  | probe k' => exact .refl m k
  | drop w =>
    have dropped : Moment.Sound { m with state := m.state.drop w } :=
      sound_of_agenda sound (drop_frame m.state w).2.1 rfl
    apply Still.trans _ (still_pass dropped k)
    apply still_of_slot
    · rw [(drop_frame m.state w).2.2.2]
    · rw [(drop_frame m.state w).2.1]
    · rfl

/-- A submit of a session whose call runs is one more waiter of the call. -/
theorem calling_of_shares (sound : m.Sound) {k k' : σ} (same : (k' == k) = true) (args : α)
    {call : Running α} {a : Appointment (Deed σ)} (calling : Calling m k call a) :
  Calling { m with state := c.apply m.state (.submit k' args) } k
    { call with waiters := call.waiters ++ [m.state.submits] } a
  := by
  have passed := (still_pass sound k).calling calling
  have running : (m.state.pass.slot k').running = some call := by
    rw [slot_congr _ same, slot_of_get? passed.slot]
  have joined := calling_joinCall same passed
  simp only [State.submits_pass] at joined
  simp only [apply, submit, running]
  apply joined

/-- The waiters that a request adds to a session, when the next waiter has a number. -/
def Request.newcomers (q : Request σ α) (k : σ) (number : Nat) : List Nat :=
  match q with
  | .submit k' _ => if k' == k then [number] else []
  | _ => []

/-- A call runs on whatever is asked for, and is shared by those that come. -/
theorem calling_ask (sound : m.Sound) (q : Request σ α) {k : σ} {call : Running α}
    {a : Appointment (Deed σ)} (calling : Calling m k call a) :
  Calling { m with state := c.apply m.state q } k
    { call with waiters := call.waiters ++ q.newcomers k m.state.submits } a
  := by
  have elsewhere (none : q.newcomers k m.state.submits = [])
      (other : ∀ k' args, q = .submit k' args → (k' == k) = false) :
      Calling { m with state := c.apply m.state q } k
        { call with waiters := call.waiters ++ q.newcomers k m.state.submits } a := by
    rw [none, List.append_nil]
    apply Still.calling _ calling
    apply still_of_elsewhere sound other
    rintro ⟨k', -, -, pending⟩
    rw [calling.stands.isPending] at pending
    cases pending
  cases q with
  | submit k' args =>
    by_cases same : (k' == k) = true
    · rw [Request.newcomers, if_pos same]
      apply calling_of_shares sound same args calling
    · apply elsewhere (by rw [Request.newcomers, if_neg same])
      rintro _ _ ⟨⟩
      simpa using same
  | refused cause => exact elsewhere rfl nofun
  | cancel k' => exact elsewhere rfl nofun
  | probe k' => exact elsewhere rfl nofun
  | drop w => exact elsewhere rfl nofun

/-- Any other request leaves the phase of a session as it is. -/
theorem stands_of_not_touches (sound : m.Sound) {q : Request σ α} {k : σ}
    (others : ¬Act.Touches { before := m, request := q } k) {p : Phase α}
    (stands : Stands m k p) :
  Stands { m with state := c.apply m.state q } k p
  := by
  by_cases submits : ∃ k' args, q = .submit k' args ∧ (k' == k) = true
  · -- The submit shares a call, or else it would touch the session.
    obtain ⟨k', args, rfl, same⟩ := submits
    have calls : p.isCalling = true := by
      rw [← stands.isRunning]
      by_contra free
      rw [Bool.not_eq_true] at free
      apply others
      left
      exact ⟨args, k', rfl, same, free⟩
    cases p with
    | idle => cases calls
    | waiting => cases calls
    | calling =>
      obtain ⟨call, a, calling⟩ := stands.of_calling
      exact (calling_of_shares sound same args calling).stands
  · apply Still.stands _ stands
    apply still_of_elsewhere sound
    · intro k' args request
      by_contra same
      rw [Bool.not_eq_false] at same
      apply submits
      exact ⟨k', args, request, same⟩
    · intro leaves
      apply others
      right
      apply leaves

end ReflexPolicy.Coalescer
