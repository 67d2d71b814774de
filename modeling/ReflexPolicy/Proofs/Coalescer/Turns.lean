import ReflexPolicy.Proofs.Coalescer.Requests

/-!
# Turns and phases

Between requests the clock jumps and appointments are done.  `Performed` lists what can come of an
appointment: nothing, the call of a window that closes, or the end of a call.
-/

namespace ReflexPolicy.Coalescer

variable {σ α ρ : Type}

/-! ### What steps leave alone -/

theorem scheduled_cons (s : State σ α ρ) (a : Appointment (Deed σ))
    (due : List (Appointment (Deed σ))) :
  (Moment.scheduled { state := s, due := a :: due }).Perm
    (a :: Moment.scheduled { state := s, due := due })
  := List.perm_middle

/-- The clock jumps, and appointments are taken from the agenda; nothing else changes. -/
theorem jump_frame (c : Coalescer α ρ) (s : State σ α ρ) :
  (c.jump s).1.slots = s.slots ∧ (c.jump s).1.calls = s.calls
    ∧ (c.jump s).1.agenda.made = s.agenda.made
    ∧ (s.agenda.Filled → (c.jump s).1.agenda.Filled)
    ∧ s.agenda.members.Perm ((c.jump s).1.agenda.members ++ (c.jump s).2)
  := by
  rw [jump]
  split
  · refine ⟨rfl, rfl, rfl, id, ?_⟩
    rw [List.append_nil]
  · refine ⟨rfl, rfl, Agenda.made_takeDue _ _ _ _, Agenda.filled_takeDue _ _ _, ?_⟩
    exact (Agenda.members_takeDue _ _ _ _).trans List.perm_append_comm

theorem sound_jump (c : Coalescer α ρ) {s : State σ α ρ}
    (sound : Moment.Sound { state := s, due := [] }) :
  Moment.Sound { state := (c.jump s).1, due := (c.jump s).2 }
  := by
  obtain ⟨-, -, made, filled, perm⟩ := jump_frame c s
  exact {
    filled := filled sound.filled
    numbered := by
      intro a mem
      rw [made]
      apply sound.numbered a
      rw [Moment.scheduled, List.append_nil]
      apply perm.mem_iff.mpr mem }

variable [BEq σ] {c : Coalescer α ρ} {s : State σ α ρ} {k : σ}

/-- No call is made while the clock jumps. -/
theorem calls_turn (c : Coalescer α ρ) (s : State σ α ρ) :
  (c.jump s.tidy).1.pass.calls = s.calls
  := by
  rw [State.calls_pass, (jump_frame c s.tidy).2.1]
  apply s.calls_pass

theorem finish_frame (c : Coalescer α ρ) (s : State σ α ρ) (k : σ) :
  (c.finish s k).now = s.now ∧ (c.finish s k).agenda = s.agenda
  := by
  simp only [finish, State.putUnlessIdle, State.settle, State.put]
  split
  · split <;> exact ⟨rfl, rfl⟩
  · exact ⟨rfl, rfl⟩

/-- An appointment that is done takes no time.  A window that closes makes an appointment for the
end of the call; nothing else makes one. -/
theorem perform_frame (c : Coalescer α ρ) (s : State σ α ρ) (a : Appointment (Deed σ)) :
  (c.perform s a).now = s.now ∧ ((c.perform s a).agenda = s.agenda
    ∨ ∃ k args, a.deed = .close k ∧ s.isStale a = false ∧ (s.slot k).args = some args
      ∧ (c.perform s a).agenda = s.agenda.add (c.clock.after s.now (c.duration args)) (.finish k))
  := by
  rw [perform]
  split
  · exact ⟨rfl, .inl rfl⟩
  · rename_i live
    rw [Bool.not_eq_true] at live
    cases a.deed with
    | close k =>
      simp only [close]
      split
      · rename_i args _ given
        split
        · have frame (s : State σ α ρ) := finish_frame c s k
          exact ⟨(frame _).1, .inl (frame _).2⟩
        · exact ⟨rfl, .inr ⟨k, args, rfl, live, given, rfl⟩⟩
      · exact ⟨rfl, .inl rfl⟩
    | finish k => exact ⟨(finish_frame c s k).1, .inl (finish_frame c s k).2⟩
    | wake => exact ⟨rfl, .inl rfl⟩

theorem sound_perform {a : Appointment (Deed σ)} {due : List (Appointment (Deed σ))}
    (sound : Moment.Sound { state := s, due := a :: due }) :
  Moment.Sound { state := c.perform s a, due := due }
  := by
  have rest : Moment.Sound { state := s, due := due } := {
    filled := sound.filled
    numbered := by
      intro b mem
      apply sound.numbered b
      exact (scheduled_cons s a due).mem_iff.mpr (List.mem_cons_of_mem a mem) }
  obtain ⟨-, same | ⟨k, args, -, -, -, more⟩⟩ := perform_frame c s a
  · exact sound_of_agenda rest same rfl
  · exact sound_of_agenda (sound_appoint rest _ (.finish k)) more rfl

theorem executions_of_perm {m m' : Moment σ α ρ} {gone come : List (Appointment (Deed σ))}
    (perm : (gone ++ m'.scheduled).Perm (come ++ m.scheduled)) (k : σ) :
  (gone.filter (finishes k) ++ m'.executions k).Perm
    (come.filter (finishes k) ++ m.executions k)
  := by
  have filtered := perm.filter (finishes k)
  rw [List.filter_append, List.filter_append] at filtered
  apply filtered

/-! ### Calls that begin and end -/

theorem finish_eq {call : Running α} (slot : s.slot k =
    { timer := none, window := none, args := none, running := some call }) :
  c.finish s k =
    { s.settle call.waiters (c.result call.number call.args) with
      slots := s.slots.without (· == k) }
  := by
  rw [finish, slot]
  rfl

/-- A window that closes, if its call takes some time. -/
theorem close_of_lasting {timer : Option Nat} {waiters : List Nat} {args : α}
    (slot : s.slot k =
      { timer := timer, window := some waiters, args := some args, running := none })
    (lasting : c.duration args ≠ 0) :
  c.close s k = State.appoint
    { s.put k { timer := none, window := none, args := none
                running := some { number := s.calls.length + 1, args := args
                                  ends := c.clock.after s.now (c.duration args)
                                  waiters := waiters } } with
      calls := s.calls ++
        [{ session := k, number := s.calls.length + 1, time := s.now, args := args }] }
    (c.clock.after s.now (c.duration args)) (.finish k)
  := by
  rw [close, slot]
  apply if_neg lasting

variable [EquivBEq σ]

/-- A window that closes, if its call takes no time. -/
theorem close_of_instant {timer : Option Nat} {waiters : List Nat} {args : α}
    (slot : s.slot k =
      { timer := timer, window := some waiters, args := some args, running := none })
    (instant : c.duration args = 0) :
  (c.close s k).agenda = s.agenda
    ∧ (c.close s k).calls = s.calls ++
      [{ session := k, number := s.calls.length + 1, time := s.now, args := args }]
    ∧ (c.close s k).endings =
      (s.settle waiters (c.result (s.calls.length + 1) args)).endings
    ∧ ∀ k', Entries.get? (c.close s k).slots k' =
      if k == k' then none else Entries.get? s.slots k'
  := by
  let call : Running α :=
    { number := s.calls.length + 1, args := args
      ends := c.clock.after s.now (c.duration args), waiters := waiters }
  let calling : State σ α ρ :=
    { s.put k { timer := none, window := none, args := none, running := some call } with
      calls := s.calls ++
        [{ session := k, number := s.calls.length + 1, time := s.now, args := args }] }
  have closed : c.close s k = c.finish calling k := by
    rw [close, slot]
    apply if_pos instant
  have running : calling.slot k =
      { timer := none, window := none, args := none, running := some call } := by
    apply slot_of_get?
    change Entries.get? (Entries.put s.slots k _) k = _
    rw [Entries.get?_put, if_pos BEq.rfl]
  rw [closed, finish_eq running]
  refine ⟨rfl, rfl, rfl, ?_⟩
  intro k'
  change Entries.get? (Entries.without (Entries.put s.slots k _) (· == k)) k' = _
  rw [Entries.get?_without, Entries.get?_put]
  split <;> rfl

/-! ### Appointments -/

/-- What an appointment that is done does to the session that it is for, if it is for one, and to
the waiters of the session. -/
inductive Effect (c : Coalescer α ρ) (a : Appointment (Deed σ)) (m m' : Moment σ α ρ) :
    Prop where
  | nothing (still : ∀ k, Still m m' k) (calls : m'.state.calls = m.state.calls)
    (endings : m'.state.endings = m.state.endings)
    (quiet : ∀ k, concerns m.state k a = false)
  /-- The window of a session closes, and its call runs. -/
  | called {k : σ} {waiters : List Nat} {args : α} {b : Appointment (Deed σ)}
    (deed : a.deed = .close k) (lasting : c.duration args ≠ 0)
    (before : Stands m k (.waiting a.due waiters args))
    (ends : b.due = c.clock.after m.state.now (c.duration args))
    (number : b.number = m.state.agenda.made)
    (after : Calling m' k
      { number := m.state.calls.length + 1, args := args, ends := b.due, waiters := waiters } b)
    (others : ∀ k', (k == k') = false → Still m m' k')
    (calls : m'.state.calls = m.state.calls ++
      [{ session := k, number := m.state.calls.length + 1, time := m.state.now, args := args }])
    (endings : m'.state.endings = m.state.endings) (mine : concerns m.state k a = true)
  /-- The window of a session closes, and its call ends at once. -/
  | instant {k : σ} {waiters : List Nat} {args : α}
    (deed : a.deed = .close k) (instant : c.duration args = 0)
    (before : Stands m k (.waiting a.due waiters args)) (after : Stands m' k .idle)
    (others : ∀ k', (k == k') = false → Still m m' k')
    (calls : m'.state.calls = m.state.calls ++
      [{ session := k, number := m.state.calls.length + 1, time := m.state.now, args := args }])
    (endings : m'.state.endings =
      (m.state.settle waiters (c.result (m.state.calls.length + 1) args)).endings)
    (mine : concerns m.state k a = true)
  /-- The call of a session ends. -/
  | finished {k : σ} {call : Running α} (deed : a.deed = .finish k)
    (before : Calling m k call a) (after : Stands m' k .idle)
    (others : ∀ k', (k == k') = false → Still m m' k')
    (calls : m'.state.calls = m.state.calls)
    (endings : m'.state.endings =
      (m.state.settle call.waiters (c.result call.number call.args)).endings)
    (mine : concerns m.state k a = true)

variable {a : Appointment (Deed σ)} {due : List (Appointment (Deed σ))}

theorem effect_of_lasting {waiters : List Nat} {args : α} (deed : a.deed = .close k)
    (lasting : c.duration args ≠ 0) (mine : concerns s k a = true)
    (before : Stands { state := s, due := a :: due } k (.waiting a.due waiters args)) :
  Effect c a { state := s, due := a :: due } { state := c.close s k, due := due }
  := by
  obtain ⟨_, -, -, nothing, slot⟩ := before.of_waiting
  have closed := close_of_lasting (c := c) (slot_of_get? slot) lasting
  let new : Appointment (Deed σ) :=
    { due := c.clock.after s.now (c.duration args), number := s.agenda.made, deed := .finish k }
  have slots (k' : σ) := congrArg (fun s : State σ α ρ => Entries.get? s.slots k') closed
  simp only [State.appoint, State.put, Entries.get?_put] at slots
  have perm : ([a] ++ Moment.scheduled { state := c.close s k, due := due }).Perm
      ([new] ++ Moment.scheduled { state := s, due := a :: due }) := by
    rw [closed]
    apply List.Perm.trans _ ((scheduled_cons s a due).symm.append_left [new])
    apply List.Perm.trans _ (List.Perm.swap new a _)
    apply List.Perm.cons
    exact (Agenda.members_add s.agenda new.due new.deed).append_right due
  have executions := executions_of_perm perm k
  rw [nothing, List.append_nil, List.filter_cons_of_neg (by simp [finishes, deed]),
    List.filter_nil, List.nil_append, List.filter_cons_of_pos (by simp [finishes, new]),
    List.filter_nil, List.perm_singleton] at executions
  have slot' := slots k
  rw [if_pos BEq.rfl] at slot'
  have after : Calling { state := c.close s k, due := due } k
      { number := s.calls.length + 1, args := args, ends := new.due, waiters := waiters } new := {
    slot := slot'
    timers := by
      apply timers_of_none
      rw [slot_of_get? slot']
    executions := executions }
  apply Effect.called deed lasting before rfl rfl after
  · intro k' other
    apply still_of_perm [a] [new] _ perm
    · simp [concerns, closes, finishes, deed, new, other]
    · rw [slots, if_neg (by simp [other])]
  · rw [closed]
    rfl
  · rw [closed]
    rfl
  · apply mine

theorem effect_of_instant {waiters : List Nat} {args : α} (deed : a.deed = .close k)
    (instant : c.duration args = 0) (mine : concerns s k a = true)
    (before : Stands { state := s, due := a :: due } k (.waiting a.due waiters args)) :
  Effect c a { state := s, due := a :: due } { state := c.close s k, due := due }
  := by
  obtain ⟨_, -, -, nothing, slot⟩ := before.of_waiting
  obtain ⟨agenda, calls, endings, slots⟩ :=
    close_of_instant (c := c) (slot_of_get? slot) instant
  have perm : ([a] ++ Moment.scheduled { state := c.close s k, due := due }).Perm
      ([] ++ Moment.scheduled { state := s, due := a :: due }) := by
    apply List.Perm.trans _ (scheduled_cons s a due).symm
    apply List.Perm.cons
    change (Moment.scheduled _).Perm _
    rw [Moment.scheduled, Moment.scheduled, agenda]
  have executions := executions_of_perm perm k
  rw [nothing, List.filter_cons_of_neg (by simp [finishes, deed]), List.filter_nil,
    List.nil_append, List.append_nil, List.perm_nil] at executions
  have slot' := slots k
  rw [if_pos BEq.rfl] at slot'
  have timers : Moment.timers { state := c.close s k, due := due } k = [] := by
    apply timers_of_none
    rw [slot_of_none slot']
    rfl
  apply Effect.instant deed instant before (.idle slot' timers executions) _ calls endings mine
  intro k' other
  apply still_of_perm [a] [] _ perm
  · simp [concerns, closes, finishes, deed, other]
  · rw [slots, if_neg (by simp [other])]

theorem effect_of_finish {call : Running α} (deed : a.deed = .finish k)
    (before : Calling { state := s, due := a :: due } k call a) :
  Effect c a { state := s, due := a :: due } { state := c.finish s k, due := due }
  := by
  have finished := finish_eq (c := c) (slot_of_get? before.slot)
  have slots (k' : σ) : Entries.get? (c.finish s k).slots k' =
      if k == k' then none else Entries.get? s.slots k' := by
    rw [finished]
    apply Entries.get?_without s.slots k k'
  have perm : ([a] ++ Moment.scheduled { state := c.finish s k, due := due }).Perm
      ([] ++ Moment.scheduled { state := s, due := a :: due }) := by
    rw [finished]
    exact (scheduled_cons s a due).symm
  have executions := executions_of_perm perm k
  rw [before.executions, List.filter_cons_of_pos (by simp [finishes, deed]), List.filter_nil,
    List.nil_append, List.perm_singleton] at executions
  have slot' := slots k
  rw [if_pos BEq.rfl] at slot'
  have timers : Moment.timers { state := c.finish s k, due := due } k = [] := by
    apply timers_of_none
    rw [slot_of_none slot']
    rfl
  apply Effect.finished deed before (.idle slot' timers (List.cons.inj executions).2)
  · intro k' other
    apply still_of_perm [a] [] _ perm
    · simp [concerns, closes, finishes, deed, other]
    · rw [slots, if_neg (by simp [other])]
  · rw [finished]
    rfl
  · rw [finished]
  · simp [concerns, finishes, deed]

/-- An appointment that is done has one of the four effects, if every session is in a phase. -/
theorem effect_of_phases (phases : ∀ k, ∃ p, Stands { state := s, due := a :: due } k p) :
  Effect c a { state := s, due := a :: due } { state := c.perform s a, due := due }
  := by
  have mem : a ∈ Moment.scheduled { state := s, due := a :: due } :=
    List.mem_append_right _ List.mem_cons_self
  have nothing (quiet : ∀ k, concerns s k a = false) :
      Effect c a { state := s, due := a :: due } { state := s, due := due } := by
    apply Effect.nothing
    · intro k
      apply still_of_perm [a] []
      · rfl
      · exact (scheduled_cons s a due).symm
      · simpa using quiet k
    · rfl
    · rfl
    · apply quiet
  rw [perform]
  split
  · rename_i stale
    apply nothing (concerns_of_isStale stale)
  · rename_i live
    rw [Bool.not_eq_true] at live
    cases deed : a.deed with
    | close k =>
      obtain ⟨p, stands⟩ := phases k
      have timer : a ∈ Moment.timers { state := s, due := a :: due } k := by
        simp [Moment.timers, mem, closes, deed, live]
      have mine : concerns s k a = true := by
        rw [timers_eq, List.mem_filter] at timer
        rw [concerns, timer.2, Bool.true_or]
      cases id stands with
      | idle _ none => simp [none] at timer
      | @waiting _ _ args _ one =>
        rw [one, List.mem_singleton] at timer
        rw [← timer] at stands
        by_cases instant : c.duration args = 0
        · apply effect_of_instant deed instant mine stands
        · apply effect_of_lasting deed instant mine stands
      | calling _ none => simp [none] at timer
    | finish k =>
      obtain ⟨p, stands⟩ := phases k
      have execution : a ∈ Moment.executions { state := s, due := a :: due } k := by
        simp [Moment.executions, mem, finishes, deed]
      cases id stands with
      | idle _ _ none => simp [none] at execution
      | waiting _ _ none => simp [none] at execution
      | calling slot timers one =>
        rw [one, List.mem_singleton] at execution
        rw [← execution] at one
        apply effect_of_finish deed ⟨slot, timers, one⟩
    | wake =>
      apply nothing
      simp [concerns, closes, finishes, deed]

/-- An appointment that is done leaves a session alone if it is not for it. -/
theorem Effect.still {m m' : Moment σ α ρ} (effect : Effect c a m m') {k : σ}
    (quiet : concerns m.state k a = false) :
  Still m m' k
  := by
  have other {k' : σ} (mine : concerns m.state k' a = true) : (k' == k) = false := by
    by_contra same
    rw [Bool.not_eq_false] at same
    rw [concerns_congr _ same, quiet] at mine
    cases mine
  cases effect with
  | nothing still => apply still
  | called _ _ _ _ _ _ others _ _ mine => apply others k (other mine)
  | instant _ _ _ _ others _ _ mine => apply others k (other mine)
  | finished _ _ _ others _ _ mine => apply others k (other mine)

/-- Once an appointment of a session is done, none of those that were made before is for it. -/
theorem Effect.quiet {m m' : Moment σ α ρ} (effect : Effect c a m m') {k : σ}
    (mine : concerns m.state k a = true) (sound : m.Sound) {b : Appointment (Deed σ)}
    (before : b ∈ m.scheduled) (left : b ∈ m'.scheduled) :
  concerns m'.state k b = false
  := by
  have session {k' : σ} (deed : a.deed = .close k' ∨ a.deed = .finish k') :
      (k' == k) = true := by
    by_contra other
    rw [Bool.not_eq_true] at other
    rw [concerns_of_elsewhere _ deed other] at mine
    cases mine
  have idle {k' : σ} (same : (k' == k) = true) (after : Stands m' k' .idle) :
      concerns m'.state k b = false := by
    cases after.congr same with
    | idle _ timers executions =>
      by_contra concerned
      rw [Bool.not_eq_false] at concerned
      have mem := mem_timers_executions_iff.mpr ⟨left, concerned⟩
      rw [timers, executions] at mem
      cases mem
  cases effect with
  | nothing _ _ _ quiet =>
    rw [quiet k] at mine
    cases mine
  | @called _ _ _ b' deed _ _ _ number after =>
    by_contra concerned
    rw [Bool.not_eq_false] at concerned
    obtain ⟨-, timers, executions⟩ := after.congr (session (.inl deed))
    have mem := mem_timers_executions_iff.mpr ⟨left, concerned⟩
    rw [timers, executions, List.nil_append, List.mem_singleton] at mem
    -- The end of the call is appointed only now.
    have less := sound.numbered b before
    rw [mem, number] at less
    apply Nat.lt_irrefl _ less
  | instant deed _ _ after => exact idle (session (.inl deed)) after
  | finished deed _ after => exact idle (session (.inr deed)) after

/-- What comes of an appointment that is done. -/
inductive Performed (c : Coalescer α ρ) (a : Appointment (Deed σ)) (m m' : Moment σ α ρ) :
    Prop where
  | nothing (still : ∀ k, Still m m' k) (calls : m'.state.calls = m.state.calls)
  /-- The window of a session closes, and the session is called. -/
  | called {k : σ} {waiters : List Nat} {args : α} (deed : a.deed = .close k)
    (before : Stands m k (.waiting a.due waiters args))
    (after : Stands m' k (if c.duration args = 0 then .idle else .calling))
    (others : ∀ k', (k == k') = false → Still m m' k')
    (calls : m'.state.calls = m.state.calls ++
      [{ session := k, number := m.state.calls.length + 1, time := m.state.now, args := args }])
  /-- The call of a session ends. -/
  | finished {k : σ} (before : Stands m k .calling) (after : Stands m' k .idle)
    (others : ∀ k', (k == k') = false → Still m m' k')
    (calls : m'.state.calls = m.state.calls)

/-- An appointment that is done has one of the three outcomes, if every session is in a phase. -/
theorem performed_of_phases (phases : ∀ k, ∃ p, Stands { state := s, due := a :: due } k p) :
  Performed c a { state := s, due := a :: due } { state := c.perform s a, due := due }
  := by
  cases effect_of_phases (c := c) phases with
  | nothing still calls => exact .nothing still calls
  | called deed lasting before _ _ after others calls =>
    refine .called deed before ?_ others calls
    rw [if_neg lasting]
    apply after.stands
  | instant deed instant before after others calls =>
    refine .called deed before ?_ others calls
    rw [if_pos instant]
    apply after
  | finished _ before after others calls => exact .finished before.stands after others calls

/-- An appointment that is done opens no window and changes none. -/
theorem Performed.stands {m m' : Moment σ α ρ} (performed : Performed c a m m') {k : σ}
    {p : Phase α} (stands : Stands m k p) :
  ∃ p', Stands m' k p' ∧ (p' = p ∨ p' = .idle ∨ p' = .calling)
  := by
  have other {k' : σ} {p' : Phase α} (after : Stands m' k' p')
      (quiet : p' = .idle ∨ p' = .calling)
      (others : ∀ k'', (k' == k'') = false → Still m m' k'') :
      ∃ p', Stands m' k p' ∧ (p' = p ∨ p' = .idle ∨ p' = .calling) := by
    by_cases same : (k' == k) = true
    · exact ⟨p', after.congr same, .inr quiet⟩
    · rw [Bool.not_eq_true] at same
      exact ⟨p, (others k same).stands stands, .inl rfl⟩
  cases performed with
  | nothing still => exact ⟨p, (still k).stands stands, .inl rfl⟩
  | called _ _ after others =>
    apply other after _ others
    split
    · exact .inl rfl
    · exact .inr rfl
  | finished _ after others => exact other after (.inl rfl) others

/-! ### The clock -/

theorem still_jump (c : Coalescer α ρ) (s : State σ α ρ) (k : σ) :
  Still { state := s, due := [] } { state := (c.jump s).1, due := (c.jump s).2 } k
  := by
  obtain ⟨slots, -, -, -, perm⟩ := jump_frame c s
  apply still_of_perm [] []
  · rw [slots]
  · rw [Moment.scheduled, Moment.scheduled, List.append_nil]
    apply perm.symm
  · simp

end ReflexPolicy.Coalescer
