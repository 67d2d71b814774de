import ReflexPolicy.Proofs.Coalescer.Draining
import ReflexPolicy.Proofs.Coalescer.Ticks

/-!
# Which submits are called

A submit that comes while no call of its session runs lets the window of the session wait.  What
becomes of it is decided by the requests that follow: it is called one wait later, exactly if none
of them touches the session before.  The times at which windows close are nobody else's: no request
comes at one of them.  The exact clock makes each call at the very time; any other clock makes it at
a time that it does not tell apart.
-/

namespace ReflexPolicy.Coalescer

variable {σ α ρ : Type} [BEq σ]

namespace Act

/-- No window closes at the time of a request: none is about to, and none has. -/
structure Apart (clock : Clock) (act : Act σ α ρ) : Prop where
  ahead : ∀ a ∈ act.before.scheduled, isClosing a = true →
    act.before.state.isStale a = false → act.before.state.now < a.due
  behind : ∀ made ∈ act.before.state.calls, clock.Past made.time act.before.state.now

instance (clock : Clock) (act : Act σ α ρ) : Decidable (act.Apart clock) :=
  decidable_of_iff
    ((∀ a ∈ act.before.scheduled, isClosing a = true → act.before.state.isStale a = false →
        act.before.state.now < a.due)
      ∧ ∀ made ∈ act.before.state.calls, clock.Past made.time act.before.state.now)
    ⟨fun apart => ⟨apart.1, apart.2⟩, fun apart => ⟨apart.ahead, apart.behind⟩⟩

end Act

/-- After this request none touches the session before some time. -/
def Undisturbed (log : List (Act σ α ρ)) (k : σ) (act : Act σ α ρ) (time : Nat) : Prop :=
  ∃ older newer, log = older ++ act :: newer
    ∧ ∀ b ∈ newer, b.Touches k → time ≤ b.before.state.now

theorem Latest.undisturbed {log : List (Act σ α ρ)} {k : σ} {act : Act σ α ρ}
    (latest : Latest log k act) (time : Nat) :
  Undisturbed log k act time
  := by
  obtain ⟨older, newer, split, others⟩ := latest
  use older, newer, split
  intro b mem touches
  apply absurd touches (others b mem)

theorem Undisturbed.concat {log : List (Act σ α ρ)} {k : σ} {act b : Act σ α ρ} {time : Nat}
    (undisturbed : Undisturbed log k act time) (passed : time ≤ b.before.state.now) :
  Undisturbed (log ++ [b]) k act time
  := by
  obtain ⟨older, newer, rfl, others⟩ := undisturbed
  use older, newer ++ [b]
  constructor
  · simp
  · rw [List.forall_mem_append]
    constructor
    · apply others
    · intro b' mem _
      rw [List.mem_singleton] at mem
      rw [mem]
      apply passed

/-! ### What becomes of a submit -/

/-- What has become of a submit after some more requests: its window is still open, it has been
called, or another request touched the session in time. -/
inductive Fate (c : Coalescer α ρ) (m : Moment σ α ρ) (k : σ) (act : Act σ α ρ) (args : α)
    (newer : List (Act σ α ρ)) : Prop where
  | waiting {waiters : List Nat} (stands : Stands m k (.waiting (act.closesAt c) waiters args))
    (others : ∀ b ∈ newer, ¬b.Touches k)
  | called {made : Made σ α} (mem : made ∈ m.state.calls) (session : (made.session == k) = true)
    (near : c.clock.Near made.time (act.closesAt c)) (same : made.args = args)
  | superseded {b : Act σ α ρ} (mem : b ∈ newer) (touches : b.Touches k)
    (before : b.before.state.now < act.closesAt c)

/-- Every submit has met its fate, and every call is the fate of a submit. -/
structure Accounted (c : Coalescer α ρ) (log : List (Act σ α ρ)) (m : Moment σ α ρ) :
    Prop where
  caused : ∀ made ∈ m.state.calls, ∃ act, Undisturbed log made.session act (act.closesAt c)
    ∧ act.Joins made.session made.args ∧ c.clock.Near made.time (act.closesAt c)
  fates : ∀ older act newer k args, log = older ++ act :: newer → act.Joins k args →
    Fate c m k act args newer
  /-- While a window is open, all calls of its session are past. -/
  past : ∀ k time waiters args, Stands m k (.waiting time waiters args) →
    ∀ made ∈ m.state.calls, (made.session == k) = true → c.clock.Past made.time m.state.now
  /-- The calls of a session are made at times that the clock tells apart. -/
  apart : m.state.calls.Pairwise fun made later =>
    (made.session == later.session) = true → c.clock.Past made.time later.time

variable {c : Coalescer α ρ} {log : List (Act σ α ρ)} {m m' : Moment σ α ρ}

/-- Nothing changes for the submits while the same windows are open and no call is made. -/
theorem accounted_of_quiet (accounted : Accounted c log m)
    (windows : ∀ k time waiters args,
      Stands m k (.waiting time waiters args) ↔ Stands m' k (.waiting time waiters args))
    (calls : m'.state.calls = m.state.calls) (now : m.state.now ≤ m'.state.now) :
  Accounted c log m'
  where
    caused := by
      intro made mem
      rw [calls] at mem
      apply accounted.caused made mem
    fates := by
      intro older act newer k args split joins
      cases accounted.fates older act newer k args split joins with
      | waiting stands others => exact .waiting ((windows _ _ _ _).mp stands) others
      | called mem session near same =>
        rw [← calls] at mem
        exact .called mem session near same
      | superseded mem touches before => exact .superseded mem touches before
    past := by
      intro k time waiters args stands made mem session
      rw [calls] at mem
      have past := accounted.past k time waiters args ((windows _ _ _ _).mpr stands) made mem session
      apply past.trans_le now
    apart := by
      rw [calls]
      apply accounted.apart

/-- The same windows are open when all phases stay. -/
theorem windows_of_phases (phases : ∀ k, ∃ p, Stands m k p)
    (stay : ∀ k p, Stands m k p → Stands m' k p) (k : σ) (p : Phase α) :
  Stands m k p ↔ Stands m' k p
  := by
  constructor
  · apply stay
  · intro stands
    obtain ⟨p', before⟩ := phases k
    rw [stands.unique (stay k p' before)]
    apply before

/-- A submit that nothing disturbed has been called once no window is open any more. -/
theorem called_of_undisturbed (accounted : Accounted c log m) (nothing : m.scheduled = [])
    {act : Act σ α ρ} {k : σ} {args : α} (undisturbed : Undisturbed log k act (act.closesAt c))
    (joins : act.Joins k args) :
  ∃ made ∈ m.state.calls, (made.session == k) = true ∧ made.args = args
    ∧ c.clock.Near made.time (act.closesAt c)
  := by
  obtain ⟨older, newer, split, others⟩ := undisturbed
  cases accounted.fates older act newer k args split joins with
  | waiting stands =>
    obtain ⟨a, -, timers, -, -⟩ := stands.of_waiting
    rw [Moment.timers, nothing] at timers
    cases timers
  | called mem session near same => exact ⟨_, mem, session, same, near⟩
  | @superseded b mem touches before =>
    apply absurd (others b mem touches)
    omega

/-! ### Requests -/

/-- No request comes at the time at which a window closes. -/
theorem now_lt_of_waiting {q : Request σ α}
    (apart : Act.Apart c.clock { before := m, request := q })
    {k : σ} {time : Nat} {waiters : List Nat} {args : α}
    (stands : Stands m k (.waiting time waiters args)) :
  m.state.now < time
  := by
  obtain ⟨a, rfl, timers, -, -⟩ := stands.of_waiting
  have timer : a ∈ m.timers k := by
    rw [timers]
    apply List.mem_singleton_self
  rw [Moment.timers, List.mem_filter, Bool.and_eq_true, Bool.not_eq_true'] at timer
  obtain ⟨mem, closing, live⟩ := timer
  apply apart.ahead a mem (isClosing_of_closes closing) live

variable [EquivBEq σ]

/-- What has become of a submit, after one more request. -/
theorem fate_ask (reached : Reached c log m) {q : Request σ α}
    (apart : Act.Apart c.clock { before := m, request := q }) {k : σ} {act : Act σ α ρ} {args : α}
    {newer : List (Act σ α ρ)} (fate : Fate c m k act args newer) :
  Fate c { m with state := c.apply m.state q } k act args
    (newer ++ [{ before := m, request := q }])
  := by
  have sound := sound_of_reached reached
  cases fate with
  | waiting stands others =>
    by_cases touches : Act.Touches { before := m, request := q } k
    · apply Fate.superseded _ touches
      · apply now_lt_of_waiting apart stands
      · simp
    · apply Fate.waiting
      · apply stands_of_not_touches sound touches stands
      · rw [List.forall_mem_append]
        constructor
        · apply others
        · simpa using touches
  | called mem session near same =>
    rw [← (apply_frame c m.state q).2] at mem
    exact .called mem session near same
  | superseded mem touches before =>
    exact .superseded (List.mem_append_left _ mem) touches before

theorem accounted_ask (reached : Reached c log m) (accounted : Accounted c log m)
    (q : Request σ α) (apart : Act.Apart c.clock { before := m, request := q }) :
  Accounted c (log ++ [{ before := m, request := q }]) { m with state := c.apply m.state q }
  := by
  obtain ⟨now, calls⟩ := apply_frame c m.state q
  have sound := sound_of_reached reached
  exact {
    caused := by
      intro made mem
      simp only [calls] at mem
      obtain ⟨act, undisturbed, joins, near⟩ := accounted.caused made mem
      use act
      constructor
      · apply undisturbed.concat
        apply Nat.le_of_lt
        apply near.lt_of_past (apart.behind made mem)
      · exact ⟨joins, near⟩
    fates := by
      intro older act newer k args split joins
      obtain rfl | ⟨newer, b, rfl⟩ := List.eq_nil_or_concat' newer
      · -- The submit is the request itself.
        obtain ⟨rfl, last⟩ := List.append_inj' split rfl
        cases last
        obtain ⟨p, stands, -⟩ := phase_of_reached reached k
        apply Fate.waiting
        · apply stands_of_joins sound joins stands
        · simp
      · -- The submit came before, and the request follows it.
        rw [← List.cons_append, ← List.append_assoc] at split
        obtain ⟨split', last⟩ := List.append_inj' split rfl
        cases last
        apply fate_ask reached apart
        apply accounted.fates older act newer k args split' joins
    past := by
      intro _ _ _ _ _ made mem _
      simp only [calls, now] at mem ⊢
      apply apart.behind made mem
    apart := by
      simp only [calls]
      apply accounted.apart }

/-! ### Appointments -/

/-- What has become of a submit, after a session has been called. -/
theorem fate_called {k : σ} {time : Nat} {waiters : List Nat} {args : α}
    (before : Stands m k (.waiting time waiters args)) (near : c.clock.Near m.state.now time)
    (others : ∀ k', (k == k') = false → Still m m' k') {number : Nat}
    (calls : m'.state.calls = m.state.calls ++
      [{ session := k, number := number, time := m.state.now, args := args }])
    {k' : σ} {act : Act σ α ρ} {args' : α} {newer : List (Act σ α ρ)}
    (fate : Fate c m k' act args' newer) :
  Fate c m' k' act args' newer
  := by
  cases fate with
  | waiting stands untouched =>
    by_cases same : (k == k') = true
    · have phase := (before.congr same).unique stands
      cases phase
      have mem : Made.mk k number m.state.now args ∈ m'.state.calls := by
        rw [calls]
        simp
      exact .called mem same near rfl
    · rw [Bool.not_eq_true] at same
      exact .waiting ((others k' same).stands stands) untouched
  | called mem session near same =>
    apply Fate.called _ session near same
    rw [calls]
    apply List.mem_append_left _ mem
  | superseded mem touches before => exact .superseded mem touches before

/-- The window of a session closes when it is due, and the session is called. -/
theorem accounted_called (reached : Reached c log m) (accounted : Accounted c log m)
    {k : σ} {time : Nat} {waiters : List Nat} {args : α}
    (before : Stands m k (.waiting time waiters args)) (near : c.clock.Near m.state.now time)
    {p : Phase α} (after : Stands m' k p) (quiet : p.isWaiting = false)
    (others : ∀ k', (k == k') = false → Still m m' k') (now : m'.state.now = m.state.now)
    {number : Nat} (calls : m'.state.calls = m.state.calls ++
      [{ session := k, number := number, time := m.state.now, args := args }]) :
  Accounted c log m'
  := by
  have mem_calls {made : Made σ α} (mem : made ∈ m'.state.calls) :
      made ∈ m.state.calls ∨
        made = { session := k, number := number, time := m.state.now, args := args } := by
    rw [calls, List.mem_append, List.mem_singleton] at mem
    apply mem
  exact {
    caused := by
      intro made mem
      obtain mem | rfl := mem_calls mem
      · apply accounted.caused made mem
      · obtain ⟨p', stands, is⟩ := phase_of_reached reached k
        rw [← before.unique stands] at is
        obtain ⟨act, latest, joins, rfl, -⟩ := is
        exact ⟨act, latest.undisturbed _, joins, near⟩
    fates := by
      intro older act newer k' args' split joins
      apply fate_called before near others calls
      apply accounted.fates older act newer k' args' split joins
    past := by
      intro k' time' waiters' args' stands made mem session
      have other : (k == k') = false := by
        by_contra same
        rw [Bool.not_eq_false] at same
        rw [(after.congr same).unique stands] at quiet
        cases quiet
      rw [now]
      obtain mem | rfl := mem_calls mem
      · obtain ⟨p', stands', -⟩ := phase_of_reached reached k'
        rw [((others k' other).stands stands').unique stands] at stands'
        apply accounted.past k' time' waiters' args' stands' made mem session
      · rw [other] at session
        cases session
    apart := by
      rw [calls, List.pairwise_append]
      use accounted.apart, List.pairwise_singleton _ _
      intro made mem later last session
      rw [List.mem_singleton] at last
      rw [last] at session ⊢
      apply accounted.past k time waiters args before made mem session }

theorem accounted_perform {s : State σ α ρ} {a : Appointment (Deed σ)}
    {due : List (Appointment (Deed σ))} (reached : Reached c log { state := s, due := a :: due })
    (timely : Moment.Timely c.clock isClosing { state := s, due := a :: due })
    (accounted : Accounted c log { state := s, due := a :: due }) :
  Accounted c log { state := c.perform s a, due := due }
  := by
  have phases := phases_of_reached reached
  have now := (perform_frame c s a).1
  cases performed_of_phases (c := c) phases with
  | nothing still calls =>
    apply accounted_of_quiet accounted _ calls
    · apply Nat.le_of_eq now.symm
    · intro k time waiters args
      apply windows_of_phases phases
      intro k p
      apply (still k).stands
  | @called k waiters args deed before after others calls =>
    have near := timely.near a List.mem_cons_self (by rw [isClosing, deed])
    apply accounted_called reached accounted before near after _ others now calls
    split <;> rfl
  | @finished k before after others calls =>
    apply accounted_of_quiet accounted _ calls
    · apply Nat.le_of_eq now.symm
    · intro k' time waiters args
      by_cases same : (k == k') = true
      · constructor
        · intro stands
          cases stands.unique (before.congr same)
        · intro stands
          cases stands.unique (after.congr same)
      · rw [Bool.not_eq_true] at same
        constructor
        · apply (others k' same).stands
        · intro stands
          obtain ⟨p, before'⟩ := phases k'
          rw [stands.unique ((others k' same).stands before')]
          apply before'

theorem accounted_of_reached (reached : Reached c log m) (apart : ∀ act ∈ log, act.Apart c.clock)
    (forward : ∀ act ∈ log, act.before.state.now ≤ act.closesAt c) :
  Accounted c log m
  := by
  induction reached with
  | start =>
    exact {
      caused := by
        intro made mem
        cases mem
      fates := by
        intro older act newer k args split
        simp at split
      past := by
        intro k time waiters args _ made mem
        cases mem
      apart := List.Pairwise.nil }
  | ask q before ih =>
    rw [List.forall_mem_append, List.forall_mem_singleton] at apart forward
    apply accounted_ask before (ih apart.1 forward.1) q apart.2
  | sleep time before ih =>
    apply accounted_of_quiet (ih apart forward)
    · intro k time' waiters args
      apply windows_of_phases (phases_of_reached before)
      intro k p
      apply Still.stands (still_appoint time rfl)
    · rfl
    · apply Nat.le_refl
  | @jump log s before ih =>
    have sound := sound_of_reached before
    have timely := timely_of_reached before forward
    apply accounted_of_quiet (ih apart forward)
    · intro k time waiters args
      apply windows_of_phases (phases_of_reached before)
      intro k p
      apply Still.stands (still_turn sound k)
    · apply calls_turn
    · rw [State.now_pass, ← s.now_pass]
      apply (timely_jump (timely_tidy timely sound)).2
  | @perform log s a due before ih =>
    have timely := timely_of_reached before forward
    apply accounted_perform before timely (ih apart forward)

/-! ### How many calls there are -/

/-- A call uses up an open window. -/
theorem countP_perform {s : State σ α ρ} {a : Appointment (Deed σ)}
    {due : List (Appointment (Deed σ))} (reached : Reached c log { state := s, due := a :: due })
    {k : σ} {p : Phase α} (stands : Stands { state := s, due := a :: due } k p) :
  ∃ p', Stands { state := c.perform s a, due := due } k p'
    ∧ (c.perform s a).calls.countP (·.session == k) + p'.isWaiting.toNat
      ≤ s.calls.countP (·.session == k) + p.isWaiting.toNat
  := by
  have performed := performed_of_phases (c := c) (phases_of_reached reached)
  obtain ⟨p', after, quiet⟩ := performed.stands stands
  use p', after
  have fewer : p'.isWaiting.toNat ≤ p.isWaiting.toNat := by
    obtain rfl | rfl | rfl := quiet
    · apply Nat.le_refl
    · apply Nat.zero_le
    · apply Nat.zero_le
  cases performed with
  | nothing _ calls =>
    rw [calls]
    apply Nat.add_le_add_left fewer
  | @called k' waiters args _ open_ closed others calls =>
    rw [calls, List.countP_append, List.countP_singleton]
    by_cases same : (k' == k) = true
    · have waiting := stands.unique (open_.congr same)
      have idle : p'.isWaiting = false := by
        rw [after.unique (closed.congr same)]
        split <;> rfl
      rw [if_pos same, idle, waiting]
      apply Nat.le_refl
    · rw [if_neg same]
      apply Nat.add_le_add_left fewer
  | finished _ _ _ calls =>
    rw [calls]
    apply Nat.add_le_add_left fewer

/-- A session is called no more often than submits of it come while no call of it runs: each such
submit opens one window at most. -/
theorem countP_of_reached (reached : Reached c log m) (k : σ) :
  ∃ p, Stands m k p ∧ m.state.calls.countP (·.session == k) + p.isWaiting.toNat
    ≤ log.countP (·.joins k)
  := by
  induction reached with
  | start => exact ⟨.idle, .idle rfl rfl rfl, Nat.le_refl _⟩
  | @ask log m q before ih =>
    obtain ⟨p, stands, le⟩ := ih
    have sound := sound_of_reached before
    have fewer := Nat.le_trans (Nat.le_add_right _ _) le
    simp only [(apply_frame c m.state q).2, List.countP_append]
    by_cases touches : Act.Touches { before := m, request := q } k
    · obtain ⟨args, joins⟩ | leaves := touches
      · refine ⟨_, stands_of_joins sound joins stands, ?_⟩
        rw [List.countP_singleton, if_pos (Act.joins_of_joins joins)]
        apply Nat.add_le_add_right fewer
      · use .idle, stands_of_leaves sound leaves stands
        apply Nat.le_add_right_of_le fewer
    · use p, stands_of_not_touches sound touches stands
      apply Nat.le_add_right_of_le le
  | sleep time before ih =>
    obtain ⟨p, stands, le⟩ := ih
    exact ⟨p, (still_appoint time rfl).stands stands, le⟩
  | @jump log s before ih =>
    obtain ⟨p, stands, le⟩ := ih
    use p, (still_turn (sound_of_reached before) k).stands stands
    rw [calls_turn]
    apply le
  | perform before ih =>
    obtain ⟨p, stands, le⟩ := ih
    obtain ⟨p', after, fewer⟩ := countP_perform before stands
    exact ⟨p', after, Nat.le_trans fewer le⟩

/-! ### Whole runs -/

/-- The calls that are made answer to the requests: a session is called exactly for the submits
that come while no call of it runs and that no request disturbs in time. -/
structure Debounced (c : Coalescer α ρ) (log : List (Act σ α ρ)) (calls : List (Made σ α)) :
    Prop where
  caused : ∀ made ∈ calls, ∃ act, Undisturbed log made.session act (act.closesAt c)
    ∧ act.Joins made.session made.args ∧ c.clock.Near made.time (act.closesAt c)
  called : ∀ act k args, Undisturbed log k act (act.closesAt c) → act.Joins k args →
    ∃ made ∈ calls, (made.session == k) = true ∧ made.args = args
      ∧ c.clock.Near made.time (act.closesAt c)
  /-- No two calls of a session are near to the same time. -/
  once : calls.Pairwise fun made later =>
    (made.session == later.session) = true → c.clock.Past made.time later.time
  few : ∀ k, calls.countP (·.session == k) ≤ log.countP (·.joins k)
  /-- A submit that comes while a call of its session runs makes no call and changes no phase. -/
  shared : ∀ act ∈ log, ∀ k args, act.request = .submit k args →
    act.before.state.isRunning k = true →
      (c.apply act.before.state act.request).calls = act.before.state.calls
      ∧ ∀ k' p, Stands act.before k' p →
        Stands { act.before with state := c.apply act.before.state act.request } k' p

theorem Undisturbed.congr {k k' : σ} {act : Act σ α ρ} {time : Nat} (same : (k == k') = true)
    (undisturbed : Undisturbed log k act time) :
  Undisturbed log k' act time
  := by
  obtain ⟨older, newer, split, others⟩ := undisturbed
  use older, newer, split
  intro b mem touches
  apply others b mem
  apply touches.congr (BEq.symm same)

theorem shared_of_reached (reached : Reached c log m) {k : σ} {args : α}
    (running : m.state.isRunning k = true) :
  (c.apply m.state (.submit k args)).calls = m.state.calls
    ∧ ∀ k' p, Stands m k' p →
      Stands { m with state := c.apply m.state (.submit k args) } k' p
  := by
  use (apply_frame c m.state (.submit k args)).2
  intro k' p stands
  apply stands_of_not_touches (sound_of_reached reached) _ stands
  rintro (⟨args', k'', request, same, free⟩ | ⟨k'', request, -⟩)
  · cases request
    rw [State.isRunning, ← slot_congr _ same] at free
    rw [State.isRunning, free] at running
    cases running
  · cases request

/-- With the exact clock a session is called at the very time. -/
theorem Debounced.called_iff {calls : List (Made σ α)} (debounced : Debounced c log calls)
    (exactly : c.clock = .exact) {k : σ} {args : α} {time : Nat} :
  (∃ made ∈ calls, (made.session == k) = true ∧ made.time = time ∧ made.args = args)
    ↔ ∃ act, Undisturbed log k act time ∧ act.Joins k args
      ∧ act.before.state.now + c.wait = time
  := by
  have closes (act : Act σ α ρ) : act.closesAt c = act.before.state.now + c.wait := by
    rw [Act.closesAt, exactly]
    rfl
  constructor
  · rintro ⟨made, mem, session, rfl, rfl⟩
    obtain ⟨act, undisturbed, joins, near⟩ := debounced.caused made mem
    rw [exactly, Clock.near_exact] at near
    rw [← near] at undisturbed
    use act, undisturbed.congr session, joins.congr session
    rw [near, closes]
  · rintro ⟨act, undisturbed, joins, rfl⟩
    rw [← closes] at undisturbed
    obtain ⟨made, mem, session, same, near⟩ := debounced.called act k args undisturbed joins
    rw [exactly, Clock.near_exact, closes] at near
    exact ⟨made, mem, session, near, same⟩

/-- A run to the end makes exactly the calls that its requests ask for; with the exact clock it
makes them at the very times. -/
theorem debounced_runOut {Holds : Nat → Prop} (forward : c.clock.Forward Holds)
    {requests : List (Timed σ α)} (apart : ∀ act ∈ c.acts .start requests, act.Apart c.clock) :
  Debounced c (c.acts .start requests) (c.runOut requests).1.calls
    ∧ (c.clock = .exact → ∀ k args time,
      (∃ made ∈ (c.runOut requests).1.calls,
          (made.session == k) = true ∧ made.time = time ∧ made.args = args)
        ↔ ∃ act, Undisturbed (c.acts .start requests) k act time ∧ act.Joins k args
          ∧ act.before.state.now + c.wait = time)
  := by
  have run := reached_run requests (Reached.start (c := c))
  have reached := reached_runOut (c := c) requests
  have ahead : ∀ act ∈ c.acts .start requests, act.before.state.now ≤ act.closesAt c :=
    forward_acts forward .start (held_start forward)
  have accounted := accounted_of_reached reached apart ahead
  have nothing := scheduled_drain run
  have debounced : Debounced c (c.acts .start requests) (c.runOut requests).1.calls := {
    caused := accounted.caused
    called := fun act k args => called_of_undisturbed accounted nothing
    once := accounted.apart
    few := by
      intro k
      obtain ⟨p, -, le⟩ := countP_of_reached reached k
      apply Nat.le_trans _ le
      apply Nat.le_add_right
    shared := by
      intro act mem k args request running
      obtain ⟨older, before⟩ := reached_of_mem reached mem
      rw [request]
      apply shared_of_reached before running }
  constructor
  · apply debounced
  · intro exactly k args time
    apply debounced.called_iff exactly

theorem apart_smallRequests :
  ∀ act ∈ smallCoalescer.acts .start smallRequests, act.Apart .exact
  := by decide +kernel

theorem debounced_smallRequests :
  smallCoalescer.clock.Forward (fun _ => True)
    ∧ (∀ act ∈ smallCoalescer.acts .start smallRequests, act.Apart smallCoalescer.clock)
    ∧ Debounced smallCoalescer (smallCoalescer.acts .start smallRequests)
      (smallCoalescer.runOut smallRequests).1.calls
    ∧ ((smallCoalescer.runOut smallRequests).1.calls.map fun made =>
        (made.session, made.time, made.args)) = [(1, 11, "second"), (2, 28, "again")]
  := by
  use Clock.forward_exact, apart_smallRequests
  constructor
  · exact (debounced_runOut Clock.forward_exact apart_smallRequests).1
  · decide +kernel

end ReflexPolicy.Coalescer
