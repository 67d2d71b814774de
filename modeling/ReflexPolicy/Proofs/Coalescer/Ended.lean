import ReflexPolicy.Proofs.Coalescer.Calls

/-!
# When calls have ended

`Told` gives the times at which the calls of a run have ended: for each request, the calls that were
over then had ended by that time, and the others ended no earlier.  Such times exist for every run,
whatever the clock (`told_perform` and `told_ask`), and each is one that the clock does not tell
from the time at which the call was to end.
-/

namespace ReflexPolicy.Coalescer

variable {σ α ρ : Type} [BEq σ]

/-- The times at which calls have ended go with the requests and with one another. -/
structure Told (c : Coalescer α ρ) (ended : Nat → Nat) (log : List (Act σ α ρ))
    (m : Moment σ α ρ) : Prop where
  past : ∀ act ∈ log, act.before.state.now ≤ m.state.now
  calls : ∀ act ∈ log, ∀ made ∈ act.before.state.calls, made ∈ m.state.calls
  before : ∀ act ∈ log, ∀ made, act.before.state.Over made →
    m.state.Over made ∧ ended made.number ≤ act.before.state.now
  after : ∀ act ∈ log, ∀ made, m.state.Over made → ¬act.before.state.Over made →
    act.before.state.now ≤ ended made.number
  isOver : ∀ made, m.state.Over made →
    ended made.number ≤ m.state.now ∧ c.clock.Near (ended made.number) (made.endsAt c)
  /-- A session is called only when its calls before are over. -/
  serial : m.state.calls.Pairwise fun made later => (made.session == later.session) = true →
    m.state.Over made ∧ ended made.number ≤ later.time

variable {c : Coalescer α ρ} {ended ended' : Nat → Nat} {log : List (Act σ α ρ)}
  {m m' : Moment σ α ρ}

theorem told_congr (told : Told c ended log m)
    (same : ∀ made, m.state.Over made → ended' made.number = ended made.number) :
  Told c ended' log m
  := {
    told with
    before := by
      intro act mem made isOver
      obtain ⟨still, le⟩ := told.before act mem made isOver
      use still
      rw [same made still]
      apply le
    after := by
      intro act mem made isOver
      rw [same made isOver]
      apply told.after act mem made isOver
    isOver := by
      intro made isOver
      rw [same made isOver]
      apply told.isOver made isOver
    serial := by
      apply told.serial.imp
      intro made later serial session
      obtain ⟨isOver, le⟩ := serial session
      use isOver
      rw [same made isOver]
      apply le }

theorem told_start :
  Told c ended [] { state := (.start : State σ α ρ), due := [] }
  where
    past := nofun
    calls := nofun
    before := nofun
    after := nofun
    isOver := by
      intro made isOver
      cases isOver.1
    serial := List.Pairwise.nil

/-- Time goes by, while no call begins or ends. -/
theorem told_of_quiet (told : Told c ended log m) (now : m.state.now ≤ m'.state.now)
    (calls : m'.state.calls = m.state.calls)
    (isOver : ∀ made, m'.state.Over made ↔ m.state.Over made) :
  Told c ended log m'
  where
    past := fun act mem => Nat.le_trans (told.past act mem) now
    calls := by
      rw [calls]
      apply told.calls
    before := by
      intro act mem made
      rw [isOver]
      apply told.before act mem made
    after := by
      intro act mem made
      rw [isOver]
      apply told.after act mem made
    isOver := by
      intro made
      rw [isOver]
      intro ends
      obtain ⟨le, near⟩ := told.isOver made ends
      exact ⟨Nat.le_trans le now, near⟩
    serial := by
      simp only [calls, isOver]
      apply told.serial

/-- Calls begin or end now. -/
theorem told_of_progress (told : Told c ended log m) (now : m'.state.now = m.state.now)
    (calls : m'.state.calls = m.state.calls
      ∨ ∃ new, m'.state.calls = m.state.calls ++ [new] ∧ new.time = m.state.now
        ∧ ∀ made ∈ m.state.calls, (made.session == new.session) = true → m.state.Over made)
    (kept : ∀ made, m.state.Over made → m'.state.Over made)
    (isOver : ∀ made, m'.state.Over made → m.state.Over made
      ∨ ended made.number = m.state.now ∧ c.clock.Near m.state.now (made.endsAt c)) :
  Told c ended log m'
  where
    past := by
      rw [now]
      apply told.past
    calls := by
      intro act mem made member
      have old := told.calls act mem made member
      obtain same | ⟨new, more, -⟩ := calls
      · rw [same]
        apply old
      · rw [more]
        apply List.mem_append_left _ old
    before := by
      intro act mem made ends
      obtain ⟨still, le⟩ := told.before act mem made ends
      exact ⟨kept made still, le⟩
    after := by
      intro act mem made ends running
      obtain old | ⟨at_, -⟩ := isOver made ends
      · apply told.after act mem made old running
      · rw [at_]
        apply told.past act mem
    isOver := by
      intro made ends
      rw [now]
      obtain old | ⟨at_, near⟩ := isOver made ends
      · apply told.isOver made old
      · rw [at_]
        exact ⟨Nat.le_refl _, near⟩
    serial := by
      have old : m.state.calls.Pairwise fun made later =>
          (made.session == later.session) = true →
            m'.state.Over made ∧ ended made.number ≤ later.time := by
        apply told.serial.imp
        intro made later serial session
        obtain ⟨ends, le⟩ := serial session
        exact ⟨kept made ends, le⟩
      obtain same | ⟨new, more, time, others⟩ := calls
      · rw [same]
        apply old
      · rw [more, List.pairwise_append]
        use old, List.pairwise_singleton _ _
        intro made mem later last session
        rw [List.mem_singleton] at last
        rw [last] at session ⊢
        have ends := others made mem session
        use kept made ends
        rw [time]
        apply (told.isOver made ends).1

theorem told_turn {s : State σ α ρ} (reached : Reached c log { state := s, due := [] })
    (told : Told c ended log { state := s, due := [] }) :
  Told c ended log { state := (c.jump s.tidy).1.pass, due := (c.jump s.tidy).2 }
  := by
  apply told_of_quiet told
  · rw [State.now_pass, ← s.now_pass]
    apply (now_jump c (s.trims_tidy.ordered (ordered_of_reached reached))).1
  · apply calls_turn
  · apply over_turn

/-! ### Calls that are over -/

theorem over_of_free {s : State σ α ρ} {made : Made σ α} (mem : made ∈ s.calls)
    (free : s.isRunning made.session = false) :
  s.Over made
  := by
  use mem
  intro call running
  rw [State.isRunning, running] at free
  cases free

theorem over_iff_of_free {s : State σ α ρ} {made : Made σ α}
    (free : s.isRunning made.session = false) :
  s.Over made ↔ made ∈ s.calls
  := ⟨And.left, fun mem => over_of_free mem free⟩

theorem over_of_still {made : Made σ α} (still : Still m m' made.session)
    (calls : made ∈ m'.state.calls ↔ made ∈ m.state.calls) :
  m'.state.Over made ↔ m.state.Over made
  := by rw [State.Over, State.Over, calls, still.slot_eq]

variable [EquivBEq σ]

theorem over_iff_of_calling {k : σ} {call : Running α} {a : Appointment (Deed σ)}
    (calling : Calling m k call a) {made : Made σ α} (session : (k == made.session) = true) :
  m.state.Over made ↔ made ∈ m.state.calls ∧ call.number ≠ made.number
  := by
  rw [State.Over, slot_of_get? (calling.congr session).slot]
  simp

/-- The call that runs is not over. -/
theorem not_over_of_calling {k : σ} {call : Running α} {a : Appointment (Deed σ)}
    (calling : Calling m k call a) {made : Made σ α} (session : (made.session == k) = true)
    (number : call.number = made.number) :
  ¬m.state.Over made
  := by
  rw [over_iff_of_calling calling (BEq.symm session)]
  exact fun isOver => isOver.2 number

theorem told_ask (told : Told c ended log m) (q : Request σ α) :
  Told c ended (log ++ [{ before := m, request := q }])
    { m with state := c.apply m.state q }
  := by
  obtain ⟨now, calls⟩ := apply_frame c m.state q
  have isOver := over_apply c m.state q
  have quiet : Told c ended log { m with state := c.apply m.state q } :=
    told_of_quiet told (Nat.le_of_eq now.symm) calls isOver
  obtain ⟨past, calls', before, after, isOver', serial⟩ := quiet
  constructor
  · rw [List.forall_mem_append, List.forall_mem_singleton]
    exact ⟨past, Nat.le_of_eq now.symm⟩
  · rw [List.forall_mem_append, List.forall_mem_singleton]
    use calls'
    simp only [calls]
    exact fun _ => id
  · rw [List.forall_mem_append, List.forall_mem_singleton]
    use before
    simp only [isOver]
    exact fun made ends => ⟨ends, (told.isOver made ends).1⟩
  · rw [List.forall_mem_append, List.forall_mem_singleton]
    use after
    simp only [isOver]
    exact fun made ends running => absurd ends running
  · apply isOver'
  · apply serial

/-! ### Effects on calls -/

theorem ne_of_elsewhere {made other : Made σ α}
    (elsewhere : (made.session == other.session) = false) :
  other ≠ made
  := by
  rintro rfl
  rw [BEq.rfl] at elsewhere
  cases elsewhere

variable {new : Made σ α}

/-- A call that begins ends none. -/
theorem over_of_called {call : Running α} {b : Appointment (Deed σ)}
    (free : m.state.isRunning new.session = false) (after : Calling m' new.session call b)
    (number : call.number = new.number)
    (fresh : ∀ made ∈ m.state.calls, made.number ≠ new.number)
    (others : ∀ k, (new.session == k) = false → Still m m' k)
    (calls : m'.state.calls = m.state.calls ++ [new]) (made : Made σ α) :
  m'.state.Over made ↔ m.state.Over made
  := by
  by_cases same : (new.session == made.session) = true
  · rw [isRunning_congr same] at free
    rw [over_iff_of_calling after same, over_iff_of_free free, number, calls, List.mem_append,
      List.mem_singleton]
    constructor
    · rintro ⟨mem | rfl, other⟩
      · exact mem
      · apply absurd rfl other
    · exact fun mem => ⟨.inl mem, (fresh made mem).symm⟩
  · rw [Bool.not_eq_true] at same
    apply over_of_still (others _ same)
    rw [calls, List.mem_append, List.mem_singleton]
    apply or_iff_left (ne_of_elsewhere same)

/-- A call that ends at once is over when it has been made. -/
theorem over_of_instant (free : m.state.isRunning new.session = false)
    (free' : m'.state.isRunning new.session = false)
    (others : ∀ k, (new.session == k) = false → Still m m' k)
    (calls : m'.state.calls = m.state.calls ++ [new]) (made : Made σ α) :
  m'.state.Over made ↔ m.state.Over made ∨ made = new
  := by
  by_cases same : (new.session == made.session) = true
  · rw [isRunning_congr same] at free free'
    rw [over_iff_of_free free, over_iff_of_free free', calls, List.mem_append, List.mem_singleton]
  · rw [Bool.not_eq_true] at same
    have other := ne_of_elsewhere same
    rw [or_iff_left other]
    apply over_of_still (others _ same)
    rw [calls, List.mem_append, List.mem_singleton, or_iff_left other]

/-- A call that ends is over, and no other one. -/
theorem over_of_finished (reached : Reached c log m) {k : σ} {waiters : List Nat}
    {a : Appointment (Deed σ)} (runs : Runs c m k new waiters a)
    (free : m'.state.isRunning k = false) (others : ∀ k', (k == k') = false → Still m m' k')
    (calls : m'.state.calls = m.state.calls) (made : Made σ α) :
  m'.state.Over made ↔ m.state.Over made ∨ made = new
  := by
  by_cases same : (k == made.session) = true
  · rw [isRunning_congr same] at free
    rw [over_iff_of_calling runs.calling same, over_iff_of_free free, calls]
    constructor
    · intro mem
      by_cases number : new.number = made.number
      · exact .inr (eq_of_number reached mem runs.mem number.symm)
      · exact .inl ⟨mem, number⟩
    · rintro (⟨mem, -⟩ | rfl)
      · exact mem
      · exact runs.mem
  · rw [Bool.not_eq_true] at same
    have other : made ≠ new := by
      rintro rfl
      rw [BEq.symm runs.session] at same
      cases same
    rw [or_iff_left other]
    apply over_of_still (others _ same)
    rw [calls]

/-- An appointment that has an effect ends at most one call, and that one in time. -/
theorem over_of_effect (reached : Reached c log m) {a : Appointment (Deed σ)}
    (due : a ∈ m.due) (effect : Effect c a m m') :
  ∃ ends : Option (Made σ α), (∀ made, m'.state.Over made ↔ m.state.Over made ∨ made ∈ ends)
    ∧ ∀ made ∈ ends, c.clock.Near m.state.now (made.endsAt c)
      ∧ ∀ other, m.state.Over other → other.number ≠ made.number
  := by
  have older (made : Made σ α) (mem : made ∈ m.state.calls) :
      made.number ≠ m.state.calls.length + 1 :=
    Nat.ne_of_lt (Nat.lt_succ_of_le (number_le_of_reached reached mem))
  cases effect with
  | nothing still calls =>
    use none
    constructor
    · intro made
      rw [over_of_still (still made.session) (by rw [calls])]
      simp
    · nofun
  | called _ _ before _ _ after others calls =>
    use none
    constructor
    · intro made
      rw [over_of_called before.isRunning after rfl older others calls]
      simp
    · nofun
  | @instant k _ args _ instant before after others calls =>
    let new : Made σ α :=
      { session := k, number := m.state.calls.length + 1, time := m.state.now, args := args }
    use some new
    constructor
    · intro made
      rw [over_of_instant before.isRunning after.isRunning others calls, Option.mem_some_iff,
        eq_comm]
    · rintro _ ⟨⟩
      have ends : new.endsAt c = m.state.now := if_pos instant
      rw [ends]
      use ⟨Nat.le_refl _, fun past => Nat.lt_irrefl _ past.1⟩
      exact fun other isOver => older other isOver.1
  | @finished k _ _ before after others calls =>
    obtain ⟨made, waiters, b, runs⟩ := runs_of_reached reached k before.stands.isRunning
    have one := runs.calling.executions
    rw [before.executions] at one
    cases one
    use some made
    constructor
    · intro other
      rw [over_of_finished reached runs after.isRunning others calls, Option.mem_some_iff, eq_comm]
    · rintro _ ⟨⟩
      use runs.near due
      intro other isOver number
      rw [eq_of_number reached isOver.1 runs.mem number] at isOver
      apply not_over_of_calling runs.calling runs.session rfl isOver

theorem calls_of_effect {a : Appointment (Deed σ)} (effect : Effect c a m m') :
  m'.state.calls = m.state.calls
    ∨ ∃ new, m'.state.calls = m.state.calls ++ [new] ∧ new.time = m.state.now
      ∧ new.number = m.state.calls.length + 1
      ∧ ∀ made ∈ m.state.calls, (made.session == new.session) = true → m.state.Over made
  := by
  have isOver {k : σ} {due : Nat} {waiters : List Nat} {args : α}
      (before : Stands m k (.waiting due waiters args)) :
      ∀ made ∈ m.state.calls, (made.session == k) = true → m.state.Over made := by
    intro made mem session
    apply over_of_free mem
    rw [isRunning_congr session, before.isRunning]
    rfl
  cases effect with
  | nothing _ calls => exact .inl calls
  | called _ _ before _ _ _ _ calls => exact .inr ⟨_, calls, rfl, rfl, isOver before⟩
  | instant _ _ before _ _ calls => exact .inr ⟨_, calls, rfl, rfl, isOver before⟩
  | finished _ _ _ _ calls => exact .inl calls

/-- When an appointment is done, a call may have ended now. -/
theorem told_perform {s : State σ α ρ} {a : Appointment (Deed σ)}
    {due : List (Appointment (Deed σ))} (reached : Reached c log { state := s, due := a :: due })
    (told : Told c ended log { state := s, due := a :: due }) :
  ∃ ended' : Nat → Nat, (∀ made, s.Over made → ended' made.number = ended made.number)
    ∧ (∀ made, (c.perform s a).Over made → s.Over made ∨ ended' made.number = s.now)
    ∧ Told c ended' log { state := c.perform s a, due := due }
  := by
  have effect := effect_of_phases (c := c) (phases_of_reached reached)
  obtain ⟨ends, isOver, fresh⟩ := over_of_effect reached List.mem_cons_self effect
  let ended' (number : Nat) : Nat :=
    if ends.map (·.number) = some number then s.now else ended number
  have agree : ∀ made, s.Over made → ended' made.number = ended made.number := by
    intro made old
    apply if_neg
    rw [Option.map_eq_some_iff]
    rintro ⟨other, is, number⟩
    apply (fresh other is).2 made old number.symm
  have now : ∀ made ∈ ends, ended' made.number = s.now := by
    intro made is
    apply if_pos
    rw [Option.mem_def.mp is]
    rfl
  use ended', agree
  constructor
  · intro made is
    apply ((isOver made).mp is).imp_right (now made)
  · apply told_of_progress (told_congr told agree)
    · apply (perform_frame c s a).1
    · apply (calls_of_effect effect).imp_right
      rintro ⟨new, calls, time, -, others⟩
      exact ⟨new, calls, time, others⟩
    · exact fun made old => (isOver made).mpr (.inl old)
    · intro made is
      apply ((isOver made).mp is).imp_right
      exact fun this => ⟨now made this, (fresh made this).1⟩

end ReflexPolicy.Coalescer
