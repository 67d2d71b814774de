import ReflexPolicy.Proofs.Coalescer.Endings
import ReflexPolicy.Proofs.Coalescer.Time

/-!
# Calls that run and calls that are over

A call that runs is one of those that have been made, and is to end at an appointment.  `Runs` says
so, and that the appointment is kept in time, whatever the clock: `runs_of_reached`.  A call that
does not run any more is over; its end came at a time that the clock does not tell from the one at
which it was to end.
-/

namespace ReflexPolicy.Coalescer

variable {σ α ρ : Type}

/-- The time at which a call is to end.  No call ends before it is made. -/
def Made.endsAt (made : Made σ α) (c : Coalescer α ρ) : Nat :=
  if c.duration made.args = 0 then made.time
  else max made.time (c.clock.after made.time (c.duration made.args))

/-! ### The agenda -/

/-- The clock jumps ahead, but not past an appointment. -/
theorem now_jump (c : Coalescer α ρ) {s : State σ α ρ} (ordered : s.agenda.IsOrdered) :
  s.now ≤ (c.jump s).1.now ∧ ∀ a ∈ s.agenda.members, (c.jump s).1.now ≤ max s.now a.due
  := by
  rw [jump]
  split
  · exact ⟨Nat.le_refl _, fun a _ => Nat.le_max_left _ _⟩
  · rename_i next first
    constructor
    · apply Nat.le_max_left
    · intro a mem
      have := Agenda.next?_le ordered first mem
      simp only
      omega

/-- What is taken from the agenda is due, as the clock sees it. -/
theorem due_jump (c : Coalescer α ρ) (s : State σ α ρ) :
  ∀ a ∈ (c.jump s).2, ¬c.clock.Past (c.jump s).1.now a.due
  := by
  rw [jump]
  split
  · intro a mem
    cases mem
  · intro a mem past
    have due := Agenda.due_of_takeDue mem
    obtain ⟨lt, le⟩ := past
    simp only at lt le
    omega

/-- Appointments come to an agenda with the next number. -/
def Renews (s s' : State σ α ρ) : Prop :=
  ∀ a ∈ s'.agenda.members, a ∈ s.agenda.members ∨ a.number = s.agenda.made

theorem renews_of_add {s s' : State σ α ρ} {agenda : Agenda (Deed σ)} {due : Nat}
    {deed : Deed σ} (old : ∀ a ∈ agenda.members, a ∈ s.agenda.members)
    (made : agenda.made = s.agenda.made) (added : s'.agenda = agenda.add due deed) :
  Renews s s'
  := by
  intro a mem
  rw [added, (Agenda.members_add _ _ _).mem_iff, List.mem_cons] at mem
  obtain rfl | mem := mem
  · exact .inr made
  · exact .inl (old a mem)

variable [BEq σ] {c : Coalescer α ρ} {log : List (Act σ α ρ)} {m m' : Moment σ α ρ}

theorem ordered_of_reached (reached : Reached c log m) :
  m.state.agenda.IsOrdered
  := by
  induction reached with
  | start => trivial
  | @ask log m q before ih =>
    obtain ⟨s, agenda, -, same, trims, done⟩ := c.apply_agenda m.state q
    rw [← same] at ih
    obtain kept | ⟨k, -, -, added⟩ := done
    · rw [kept]
      apply trims.ordered ih
    · rw [added]
      apply Agenda.isOrdered_add _ _ (trims.ordered ih)
  | sleep time before ih => apply Agenda.isOrdered_add _ _ ih
  | @jump log s before ih =>
    apply (State.trims_pass _).ordered
    rw [jump]
    split
    · apply s.trims_tidy.ordered ih
    · apply Agenda.isOrdered_takeDue _ _ _ (s.trims_tidy.ordered ih)
  | @perform log s a due before ih =>
    obtain ⟨-, same | ⟨k, args, -, -, -, more⟩⟩ := perform_frame c s a
    · rw [same]
      apply ih
    · rw [more]
      apply Agenda.isOrdered_add _ _ ih

theorem renews_apply {s : State σ α ρ} (filled : s.agenda.Filled) (q : Request σ α) :
  Renews s (c.apply s q)
  := by
  obtain ⟨s', agenda, -, same, trims, done⟩ := c.apply_agenda s q
  rw [← same] at filled
  obtain ⟨gone, perm, -⟩ := trims.members filled
  have old : ∀ a ∈ agenda.members, a ∈ s.agenda.members := by
    intro a mem
    rw [← same, perm.mem_iff]
    apply List.mem_append_right gone mem
  obtain kept | ⟨k, -, -, added⟩ := done
  · intro a mem
    rw [kept] at mem
    exact .inl (old a mem)
  · apply renews_of_add old _ added
    rw [trims.made, same]

theorem renews_perform (c : Coalescer α ρ) (s : State σ α ρ) (a : Appointment (Deed σ)) :
  Renews s (c.perform s a)
  := by
  obtain ⟨-, same | ⟨k, args, -, -, -, more⟩⟩ := perform_frame c s a
  · intro b mem
    rw [same] at mem
    exact .inl mem
  · exact renews_of_add (fun _ => id) rfl more

/-! ### The numbers of calls -/

theorem calls_perform [EquivBEq σ] {s : State σ α ρ} {a : Appointment (Deed σ)}
    {due : List (Appointment (Deed σ))} (reached : Reached c log { state := s, due := a :: due }) :
  (c.perform s a).calls = s.calls ∨ ∃ k args, (c.perform s a).calls = s.calls ++
    [{ session := k, number := s.calls.length + 1, time := s.now, args := args }]
  := by
  cases performed_of_phases (c := c) (phases_of_reached reached) with
  | nothing _ calls => exact .inl calls
  | called _ _ _ _ calls => exact .inr ⟨_, _, calls⟩
  | finished _ _ _ calls => exact .inl calls

/-- Calls are numbered in the order in which they are made, from one on. -/
theorem numbers_of_reached [EquivBEq σ] (reached : Reached c log m) :
  m.state.calls.map (·.number) = List.range' 1 m.state.calls.length
  := by
  induction reached with
  | start => rfl
  | @ask log m q before ih =>
    rw [(apply_frame c m.state q).2]
    apply ih
  | sleep time before ih => apply ih
  | @jump log s before ih =>
    rw [calls_turn]
    apply ih
  | @perform log s a due before ih =>
    obtain same | ⟨k, args, more⟩ := calls_perform before
    · rw [same]
      apply ih
    · rw [more, List.map_append, List.length_append, ih]
      rw [List.map_singleton, List.length_singleton, List.range'_1_concat, Nat.add_comm 1]

theorem number_le_of_reached [EquivBEq σ] (reached : Reached c log m) {made : Made σ α}
    (mem : made ∈ m.state.calls) :
  made.number ≤ m.state.calls.length
  := by
  have number : made.number ∈ m.state.calls.map (·.number) := List.mem_map_of_mem mem
  rw [numbers_of_reached reached, List.mem_range'_1] at number
  omega

theorem eq_of_number [EquivBEq σ] (reached : Reached c log m) {made made' : Made σ α}
    (mem : made ∈ m.state.calls) (mem' : made' ∈ m.state.calls)
    (number : made.number = made'.number) :
  made = made'
  := by
  apply List.inj_on_of_nodup_map _ mem mem' number
  rw [numbers_of_reached reached]
  exact List.nodup_range'

/-! ### Calls that are over -/

/-- The call has been made, and does not run any more. -/
def State.Over (s : State σ α ρ) (made : Made σ α) : Prop :=
  made ∈ s.calls ∧ ∀ call, (s.slot made.session).running = some call → call.number ≠ made.number

theorem over_of_running {s s' : State σ α ρ} (calls : s'.calls = s.calls)
    (running : ∀ k, (s'.slot k).running.map (·.number) = (s.slot k).running.map (·.number))
    (made : Made σ α) :
  s'.Over made ↔ s.Over made
  := by
  have same := running made.session
  rw [State.Over, State.Over, calls]
  apply and_congr_right
  intro _
  have stated (s : State σ α ρ) : (∀ call, (s.slot made.session).running = some call →
      call.number ≠ made.number)
      ↔ (s.slot made.session).running.map (·.number) ≠ some made.number := by
    cases (s.slot made.session).running <;> simp
  rw [stated, stated, same]

theorem over_turn (c : Coalescer α ρ) (s : State σ α ρ) (made : Made σ α) :
  (c.jump s.tidy).1.pass.Over made ↔ s.Over made
  := by
  apply over_of_running (calls_turn c s)
  intro k
  rw [State.slot, (turn_waiters c s).1]
  rfl

/-! ### Calls that run -/

/-- A call runs for a session, and will end in time. -/
structure Runs (c : Coalescer α ρ) (m : Moment σ α ρ) (k : σ) (made : Made σ α)
    (waiters : List Nat) (a : Appointment (Deed σ)) : Prop where
  calling : Calling m k
    { number := made.number, args := made.args, ends := a.due, waiters := waiters } a
  mem : made ∈ m.state.calls
  session : (made.session == k) = true
  lasting : c.duration made.args ≠ 0
  due : a.due = c.clock.after made.time (c.duration made.args)
  began : made.time ≤ m.state.now
  later : a ∈ m.state.agenda.members → m.state.now ≤ made.endsAt c
  near : a ∈ m.due → c.clock.Near m.state.now (made.endsAt c)

variable {k : σ} {made : Made σ α} {waiters waiters' : List Nat} {a : Appointment (Deed σ)}

theorem Calling.scheduled {call : Running α} (calling : Calling m k call a) :
  a ∈ m.scheduled
  := by
  have mem : a ∈ m.executions k := by
    rw [calling.executions]
    apply List.mem_singleton_self
  exact (List.mem_filter.mp mem).1

theorem Still.isRunning (still : Still m m' k) :
  m'.state.isRunning k = m.state.isRunning k
  := by rw [State.isRunning, State.isRunning, still.slot_eq]

theorem Runs.endsAt (runs : Runs c m k made waiters a) :
  made.endsAt c = max made.time a.due
  := by rw [Made.endsAt, if_neg runs.lasting, runs.due]

/-- A call runs on while no time goes by, unless its end is done. -/
theorem Runs.step (runs : Runs c m k made waiters a) (sound : m.Sound)
    (calling : Calling m' k
      { number := made.number, args := made.args, ends := a.due, waiters := waiters' } a)
    (calls : made ∈ m'.state.calls) (now : m'.state.now = m.state.now)
    (renews : Renews m.state m'.state) (due : ∀ b ∈ m'.due, b ∈ m.due) :
  Runs c m' k made waiters' a
  where
    calling := calling
    mem := calls
    session := runs.session
    lasting := runs.lasting
    due := runs.due
    began := by
      rw [now]
      apply runs.began
    later := by
      intro mem
      rw [now]
      obtain mem | new := renews a mem
      · apply runs.later mem
      · have less := sound.numbered a runs.calling.scheduled
        rw [new] at less
        apply absurd less (Nat.lt_irrefl _)
    near := by
      intro mem
      rw [now]
      apply runs.near (due a mem)

/-! ### What steps do to calls -/

theorem mem_calls_of_effect (effect : Effect c a m m') (mem : made ∈ m.state.calls) :
  made ∈ m'.state.calls
  := by
  cases effect with
  | nothing _ calls =>
    rw [calls]
    apply mem
  | called _ _ _ _ _ _ _ calls =>
    rw [calls]
    apply List.mem_append_left _ mem
  | instant _ _ _ _ _ calls =>
    rw [calls]
    apply List.mem_append_left _ mem
  | finished _ _ _ _ calls =>
    rw [calls]
    apply mem

variable [EquivBEq σ]

/-- No call begins or ends with a request. -/
theorem running_apply (c : Coalescer α ρ) (s : State σ α ρ) (q : Request σ α) (k : σ) :
  ((c.apply s q).slot k).running.map (·.number) = (s.slot k).running.map (·.number)
  := by
  cases q with
  | submit k' args =>
    simp only [apply, submit, slot_pass]
    split
    · rename_i call running
      change ((State.put _ k' _).slot k).running.map _ = _
      rw [slot_put, slot_pass, slot_pass]
      split
      · rename_i same
        rw [← slot_congr s same, running]
        rfl
      · rfl
    · change ((State.put _ k' _).slot k).running.map _ = _
      rw [slot_put, slot_pass, slot_pass]
      split
      · rename_i same
        rw [← slot_congr s same]
      · rfl
  | refused cause =>
    change (s.pass.slot k).running.map _ = _
    rw [slot_pass]
  | cancel k' =>
    change ((s.abandon k').pass.slot k).running.map _ = _
    rw [slot_pass, State.abandon]
    split
    · rfl
    · change ((State.putUnlessIdle _ k' _).slot k).running.map _ = _
      rw [slot_putUnlessIdle]
      split
      · rename_i same
        rw [← slot_congr s same]
        split
        · rename_i idle
          rw [Slot.isIdle, Bool.and_eq_true, Option.isNone_iff_eq_none, Option.isNone_iff_eq_none]
            at idle
          rw [idle.2]
          rfl
        · rfl
      · rfl
  | probe k' => rfl
  | drop w =>
    change ((s.drop w).pass.slot k).running.map _ = _
    rw [slot_pass, State.slot, (drop_frame s w).2.2.2]
    rfl

theorem over_apply (c : Coalescer α ρ) (s : State σ α ρ) (q : Request σ α) (made : Made σ α) :
  (c.apply s q).Over made ↔ s.Over made
  := over_of_running (apply_frame c s q).2 (running_apply c s q) made

theorem Runs.jump {s : State σ α ρ} (reached : Reached c log { state := s, due := [] })
    (runs : Runs c { state := s, due := [] } k made waiters a) :
  Runs c { state := (c.jump s.tidy).1.pass, due := (c.jump s.tidy).2 } k made waiters a
  := by
  have sound := sound_of_reached reached
  have ordered := s.trims_tidy.ordered (ordered_of_reached reached)
  have member : a ∈ s.tidy.agenda.members := by
    have mem := ((still_tidy sound k).calling runs.calling).scheduled
    rw [Moment.scheduled, List.append_nil] at mem
    apply mem
  have later : s.now ≤ made.endsAt c := by
    apply runs.later
    have mem := runs.calling.scheduled
    rw [Moment.scheduled, List.append_nil] at mem
    apply mem
  obtain ⟨forward, behind⟩ := now_jump c ordered
  have now : s.tidy.now = s.now := s.now_pass
  have ahead : (c.jump s.tidy).1.now ≤ made.endsAt c := by
    have := behind a member
    have := runs.endsAt
    omega
  exact {
    calling := (still_turn sound k).calling runs.calling
    mem := by
      rw [calls_turn]
      apply runs.mem
    session := runs.session
    lasting := runs.lasting
    due := runs.due
    began := by
      rw [State.now_pass]
      apply Nat.le_trans runs.began
      rw [← now]
      apply forward
    later := by
      intro _
      rw [State.now_pass]
      apply ahead
    near := by
      intro mem
      rw [State.now_pass]
      use ahead
      -- A call that has begun by now is past its beginning, so its appointment counts.
      intro past
      apply due_jump c s.tidy a mem
      have began : made.time ≤ (c.jump s.tidy).1.now := by
        apply Nat.le_trans runs.began
        rw [← now]
        apply forward
      have ends := runs.endsAt
      have after := past.1
      have same : made.endsAt c = a.due := by omega
      rw [← same]
      apply past }

theorem isRunning_apply (c : Coalescer α ρ) (s : State σ α ρ) (q : Request σ α) (k : σ) :
  (c.apply s q).isRunning k = s.isRunning k
  := by
  have same := congrArg Option.isSome (running_apply c s q k)
  rw [Option.isSome_map, Option.isSome_map] at same
  apply same

theorem Runs.congr {k' : σ} (same : (k == k') = true) (runs : Runs c m k made waiters a) :
  Runs c m k' made waiters a
  := {
    runs with
    calling := runs.calling.congr same
    session := BEq.trans runs.session same }

theorem isRunning_congr {s : State σ α ρ} {k k' : σ} (same : (k == k') = true) :
  s.isRunning k = s.isRunning k'
  := by rw [State.isRunning, State.isRunning, slot_congr s same]

/-- The call that has just been made runs. -/
theorem runs_of_called {args : α} {b : Appointment (Deed σ)} (sound : m.Sound)
    (lasting : c.duration args ≠ 0)
    (ends : b.due = c.clock.after m.state.now (c.duration args))
    (number : b.number = m.state.agenda.made)
    (after : Calling m' k
      { number := m.state.calls.length + 1, args := args, ends := b.due, waiters := waiters } b)
    (calls : m'.state.calls = m.state.calls ++
      [{ session := k, number := m.state.calls.length + 1, time := m.state.now, args := args }])
    (now : m'.state.now = m.state.now) (due : ∀ b ∈ m'.due, b ∈ m.due) :
  Runs c m' k
    { session := k, number := m.state.calls.length + 1, time := m.state.now, args := args }
    waiters b
  where
    calling := after
    mem := by
      rw [calls]
      apply List.mem_append_right _ (List.mem_singleton_self _)
    session := BEq.rfl
    lasting := lasting
    due := ends
    began := Nat.le_of_eq now.symm
    later := by
      intro _
      rw [now, Made.endsAt, if_neg lasting]
      apply Nat.le_max_left
    near := by
      intro mem
      have less := sound.numbered b (List.mem_append_right _ (due b mem))
      rw [number] at less
      apply absurd less (Nat.lt_irrefl _)

theorem not_running_of_idle {k' : σ} (idle : Stands m k .idle) (same : (k == k') = true) :
  m.state.isRunning k' ≠ true
  := by
  rw [← isRunning_congr same, idle.isRunning]
  apply Bool.false_ne_true

/-- The call that runs after an appointment ran before, or has been made now. -/
theorem runs_of_effect (effect : Effect c a m m') (sound : m.Sound)
    (ran : m.state.isRunning k = true → ∃ made waiters b, Runs c m k made waiters b)
    (now : m'.state.now = m.state.now) (renews : Renews m.state m'.state)
    (due : ∀ b ∈ m'.due, b ∈ m.due) (running : m'.state.isRunning k = true) :
  ∃ made waiters b, Runs c m' k made waiters b
  := by
  have kept (still : Still m m' k) : ∃ made waiters b, Runs c m' k made waiters b := by
    rw [still.isRunning] at running
    obtain ⟨made, waiters, b, runs⟩ := ran running
    exact ⟨made, waiters, b, runs.step sound (still.calling runs.calling)
      (mem_calls_of_effect effect runs.mem) now renews due⟩
  cases effect with
  | nothing still => exact kept (still k)
  | @called k' _ _ _ _ lasting _ ends number after others calls =>
    by_cases same : (k' == k) = true
    · have runs := runs_of_called sound lasting ends number after calls now due
      exact ⟨_, _, _, runs.congr same⟩
    · rw [Bool.not_eq_true] at same
      apply kept (others k same)
  | @instant k' _ _ _ _ _ after others =>
    by_cases same : (k' == k) = true
    · apply absurd running (not_running_of_idle after same)
    · rw [Bool.not_eq_true] at same
      apply kept (others k same)
  | @finished k' _ _ _ after others =>
    by_cases same : (k' == k) = true
    · apply absurd running (not_running_of_idle after same)
    · rw [Bool.not_eq_true] at same
      apply kept (others k same)

/-- Every session whose call runs has made that call, which will end in time. -/
theorem runs_of_reached (reached : Reached c log m) (k : σ) (running : m.state.isRunning k = true) :
  ∃ made waiters a, Runs c m k made waiters a
  := by
  induction reached generalizing k with
  | start => cases running
  | @ask log m q before ih =>
    have sound := sound_of_reached before
    rw [isRunning_apply] at running
    obtain ⟨made, waiters, a, runs⟩ := ih k running
    obtain ⟨now, calls⟩ := apply_frame c m.state q
    refine ⟨made, _, a, runs.step sound (calling_ask sound q runs.calling) ?_ now ?_ ?_⟩
    · rw [calls]
      apply runs.mem
    · apply renews_apply sound.filled
    · exact fun _ => id
  | @sleep log m time before ih =>
    obtain ⟨made, waiters, a, runs⟩ := ih k running
    have asleep : Still m { m with state := m.state.appoint time .wake } k :=
      still_appoint time rfl
    refine ⟨made, _, a, runs.step (sound_of_reached before) (asleep.calling runs.calling)
      runs.mem rfl ?_ ?_⟩
    · exact renews_of_add (fun _ => id) rfl rfl
    · exact fun _ => id
  | @jump log s before ih =>
    rw [(still_turn (sound_of_reached before) k).isRunning] at running
    obtain ⟨made, waiters, a, runs⟩ := ih k running
    exact ⟨made, waiters, a, runs.jump before⟩
  | @perform log s a due before ih =>
    have effect := effect_of_phases (c := c) (phases_of_reached before)
    apply runs_of_effect effect (sound_of_reached before) (ih k) (perform_frame c s a).1
      (renews_perform c s a) _ running
    exact fun _ => List.mem_cons_of_mem a

end ReflexPolicy.Coalescer
