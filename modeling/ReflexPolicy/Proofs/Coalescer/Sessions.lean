import ReflexPolicy.Proofs.Coalescer.Mirror
import ReflexPolicy.Proofs.Coalescer.Sleep

/-!
# What becomes of a session

What becomes of a session is what its own requests make of its track: `mirrors_of_reached`.  That is
so with a sharp clock, and as long as no request of the session comes when its window closes or its
call ends.
-/

namespace ReflexPolicy.Coalescer

variable {σ α ρ : Type}

/-! ### The track of requests -/

namespace Track

/-- The track after requests, each at its time. -/
def after (c : Coalescer α ρ) (v : Track α ρ) (requests : List (Timed σ α)) : Track α ρ :=
  requests.foldl (fun v r => (v.advance c r.time).ask c r.time r.request) v

/-- At the time of no request anything happens by itself. -/
def Apart (c : Coalescer α ρ) (v : Track α ρ) : List (Timed σ α) → Prop
  | [] => True
  | r :: rest => (v.advance c r.time).Clear c r.time
    ∧ Apart c ((v.advance c r.time).ask c r.time r.request) rest

theorem after_concat (c : Coalescer α ρ) (v : Track α ρ) (requests : List (Timed σ α))
    (r : Timed σ α) :
  v.after c (requests ++ [r]) =
    ((v.after c requests).advance c r.time).ask c r.time r.request
  := by
  rw [after, List.foldl_append]
  rfl

theorem apart_append {c : Coalescer α ρ} {v : Track α ρ} {older newer : List (Timed σ α)} :
  v.Apart c (older ++ newer) ↔ v.Apart c older ∧ (v.after c older).Apart c newer
  := by
  induction older generalizing v with
  | nil =>
    rw [List.nil_append, Apart, true_and]
    rfl
  | cons r rest ih =>
    rw [List.cons_append, Apart, Apart, ih, and_assoc]
    rfl

end Track

variable [BEq σ] {c : Coalescer α ρ} {log : List (Act σ α ρ)} {m : Moment σ α ρ} {k : σ}
  {own : Nat → Bool} {Comes : Nat → Prop}

namespace Act

/-- The request is one of the session. -/
def isOf (k : σ) (own : Nat → Bool) (act : Act σ α ρ) : Bool :=
  act.request.isOf k own act.before.state.submits

/-- The request at its time, when only the waiters of the session are numbered. -/
def timed (own : Nat → Bool) (act : Act σ α ρ) : Timed σ α :=
  { time := act.before.state.now, request := act.request.renumbered own }

/-- The numbers of the session are those of its submits. -/
def Owns (k : σ) (own : Nat → Bool) (act : Act σ α ρ) : Prop :=
  ∀ k' args, act.request = .submit k' args → own act.before.state.submits = (k' == k)

end Act

/-- The requests of a session. -/
def requestsOf (k : σ) (own : Nat → Bool) (log : List (Act σ α ρ)) : List (Timed σ α) :=
  (log.filter (·.isOf k own)).map (·.timed own)

theorem requestsOf_concat (k : σ) (own : Nat → Bool) (log : List (Act σ α ρ))
    (act : Act σ α ρ) :
  requestsOf k own (log ++ [act]) =
    requestsOf k own log ++ if act.isOf k own then [act.timed own] else []
  := by
  rw [requestsOf, List.filter_append, List.map_append]
  by_cases mine : act.isOf k own = true
  · simp [requestsOf, mine]
  · simp [requestsOf, mine]

theorem requestsOf_split {older newer : List (Act σ α ρ)} {act : Act σ α ρ}
    (mine : act.isOf k own = true) :
  requestsOf k own (older ++ act :: newer) =
    requestsOf k own older ++ act.timed own :: requestsOf k own newer
  := by simp [requestsOf, mine]

/-- Every request of a session is one of the requests. -/
theorem split_of_requestsOf {older newer : List (Timed σ α)} {r : Timed σ α}
    (split : requestsOf k own log = older ++ r :: newer) :
  ∃ before act after, log = before ++ act :: after ∧ act.isOf k own = true ∧ act.timed own = r
    ∧ requestsOf k own before = older ∧ requestsOf k own after = newer
  := by
  rw [requestsOf, List.map_eq_append_iff] at split
  obtain ⟨l, l', filtered, rfl, split⟩ := split
  rw [List.map_eq_cons_iff] at split
  obtain ⟨act, l'', rfl, rfl, rfl⟩ := split
  rw [List.filter_eq_append_iff] at filtered
  obtain ⟨before, rest, rfl, rfl, filtered⟩ := filtered
  rw [List.filter_eq_cons_iff] at filtered
  obtain ⟨between, after, rfl, others, mine, rfl⟩ := filtered
  refine ⟨before ++ between, act, after, by simp, mine, rfl, ?_, rfl⟩
  have none : between.filter (·.isOf k own) = [] := by
    rw [List.filter_eq_nil_iff]
    apply others
  rw [requestsOf, List.filter_append, none, List.append_nil]

/-! ### Every moment -/

theorem wakes_of_closes {a : Appointment (Deed σ)} (closing : closes k a = true) :
  wakes a = false
  := by
  rw [closes] at closing
  rw [wakes]
  split at closing
  · rename_i deed
    rw [deed]
  · cases closing

theorem wakes_of_finishes {a : Appointment (Deed σ)} (finishing : finishes k a = true) :
  wakes a = false
  := by
  rw [finishes] at finishing
  rw [wakes]
  split at finishing
  · rename_i deed
    rw [deed]
  · cases finishing

variable {v : Track α ρ}

theorem mirrors_start :
  Mirrors { state := (State.start : State σ α ρ), due := [] } k own .start
  where
    stage := .idle (.idle rfl rfl rfl)
    books := {
      calls := rfl
      length := rfl
      endings := nofun
      waits := nofun }

variable [EquivBEq σ]

/-- What a session has under way is still to come. -/
theorem ahead_of_mirrors (sharp : c.clock.Sharp Comes) (reached : Reached c log m)
    (mirrors : Mirrors m k own v) :
  v.Ahead c m.state.now
  := by
  have later {a : Appointment (Deed σ)} (mem : a ∈ m.scheduled) (asleep : wakes a = false) :
      m.state.now ≤ a.due := le_due_of_reached sharp reached mem asleep
  have stages := mirrors.stage
  constructor
  · intro closes args stage
    rw [stage] at stages
    obtain ⟨a, timer, rfl⟩ := stages.timer
    obtain ⟨mem, closing⟩ := List.mem_filter.mp timer
    rw [Bool.and_eq_true] at closing
    apply later mem (wakes_of_closes closing.1)
  · intro ends args stage
    rw [stage] at stages
    have running : m.state.isRunning k = true := by
      cases stages with
      | calling calling => exact calling.stands.isRunning
    obtain ⟨made, waiters, a, runs⟩ := runs_of_reached reached k running
    cases stages.eq_calling runs.calling
    have execution : a ∈ m.executions k := by
      rw [runs.calling.executions]
      apply List.mem_singleton_self
    obtain ⟨mem, finishing⟩ := List.mem_filter.mp execution
    refine ⟨later mem (wakes_of_finishes finishing), made.time, ?_, runs.lasting, runs.due⟩
    rw [mirrors.books.calls, callsOf, List.mem_map]
    exact ⟨made, List.mem_filter.mpr ⟨runs.mem, runs.session⟩, rfl⟩

/-- Time has done to the track what it does, or else something happens at this very time. -/
theorem mirrors_of_clear (sharp : c.clock.Sharp Comes) (reached : Reached c log m)
    (mirrors : Mirrors m k own v) {u : Track α ρ}
    (same : v.advance c m.state.now = u.advance c m.state.now)
    (clear : (u.advance c m.state.now).Clear c m.state.now) :
  Mirrors m k own (u.advance c m.state.now)
  := by
  rw [← same] at clear
  rw [← same, Track.advance_of_clear (ahead_of_mirrors sharp reached mirrors) clear]
  apply mirrors

/-- Nothing happens to a session when someone goes to sleep. -/
theorem mirrors_sleep (time : Nat) (mirrors : Mirrors m k own v) :
  Mirrors { m with state := m.state.appoint time .wake } k own v
  where
    stage := mirrors.stage.still (still_appoint time rfl)
    books := mirrors.books.kept rfl mirrors.books.calls (.inl rfl) (fun _ _ _ => rfl) fun _ => id

variable {s : State σ α ρ}

/-- Nothing happens to a session while the clock jumps. -/
theorem mirrors_jump (reached : Reached c log { state := s, due := [] })
    (mirrors : Mirrors { state := s, due := [] } k own v) :
  Mirrors { state := (c.jump s.tidy).1.pass, due := (c.jump s.tidy).2 } k own v
  := by
  have still := still_turn (c := c) (sound_of_reached reached) k
  obtain ⟨slots, submits, endings⟩ := turn_waiters c s
  use mirrors.stage.still still
  apply mirrors.books.kept rfl _ (.inl submits)
  · intro w _ _
    rw [endings]
  · intro w mem
    rw [State.slot, slots]
    apply mem
  · rw [calls_turn]
    apply mirrors.books.calls

/-- What is due is next to happen to the session that it is for. -/
theorem mirrors_perform (sharp : c.clock.Sharp Comes)
    (alike : ∀ number number' args, c.result number args = c.result number' args)
    {a : Appointment (Deed σ)} {due : List (Appointment (Deed σ))}
    (reached : Reached c log { state := s, due := a :: due })
    (mirrors : Mirrors { state := s, due := a :: due } k own v) :
  Mirrors { state := c.perform s a, due := due } k own
    (if concerns s k a then v.happen c s.now else v)
  := by
  apply mirrors_of_effect alike (parted_of_reached reached) mirrors
    (effect_of_phases (phases_of_reached reached)) (submits_perform c s a)
  apply punctual_of_reached sharp reached List.mem_cons_self

/-- A session has become what its own requests make of its track. -/
theorem mirrors_of_reached (sharp : c.clock.Sharp Comes)
    (alike : ∀ number number' args, c.result number args = c.result number' args)
    (reached : Reached c log m) (owns : ∀ act ∈ log, act.Owns k own)
    (apart : Track.start.Apart c (requestsOf k own log)) :
  ∃ v, Mirrors m k own v ∧ ∀ time, m.state.now ≤ time →
    v.advance c time = (Track.start.after c (requestsOf k own log)).advance c time
  := by
  induction reached with
  | start => exact ⟨.start, mirrors_start, fun _ _ => rfl⟩
  | @ask log m q before ih =>
    rw [List.forall_mem_append, List.forall_mem_singleton] at owns
    rw [requestsOf_concat, Track.apart_append] at apart
    obtain ⟨v, mirrors, same⟩ := ih owns.1 apart.1
    have sound := sound_of_reached before
    have parted := parted_of_reached before
    rw [requestsOf_concat]
    simp only [(apply_frame c m.state q).1]
    split
    · rename_i mine
      rw [if_pos mine] at apart
      have mirrors := mirrors_of_clear sharp before mirrors (same _ (Nat.le_refl _)) apart.2.1
      refine ⟨_, mirrors_ask sound parted mirrors owns.2 mine, ?_⟩
      intro time _
      rw [Track.after_concat]
      rfl
    · rename_i other
      rw [Bool.not_eq_true] at other
      refine ⟨v, mirrors_of_elsewhere sound parted mirrors owns.2 other, ?_⟩
      rw [List.append_nil]
      apply same
  | @sleep log m time before ih =>
    obtain ⟨v, mirrors, same⟩ := ih owns apart
    exact ⟨v, mirrors_sleep time mirrors, same⟩
  | @jump log s before ih =>
    obtain ⟨v, mirrors, same⟩ := ih owns apart
    refine ⟨v, mirrors_jump before mirrors, ?_⟩
    intro time later
    apply same
    apply Nat.le_trans _ later
    rw [State.now_pass, ← s.now_pass]
    apply (now_jump c (s.trims_tidy.ordered (ordered_of_reached before))).1
  | @perform log s a due before ih =>
    obtain ⟨v, mirrors, same⟩ := ih owns apart
    refine ⟨_, mirrors_perform sharp alike before mirrors, ?_⟩
    intro time later
    rw [(perform_frame c s a).1] at later
    split
    · rw [Track.advance_happen later, same time later]
    · apply same time later

/-- So it has when a request of it comes. -/
theorem mirrors_of_split (sharp : c.clock.Sharp Comes)
    (alike : ∀ number number' args, c.result number args = c.result number' args)
    (reached : Reached c log m) (owns : ∀ act ∈ log, act.Owns k own)
    (apart : Track.start.Apart c (requestsOf k own log)) {older newer : List (Act σ α ρ)}
    {act : Act σ α ρ} (split : log = older ++ act :: newer) (mine : act.isOf k own = true) :
  Mirrors act.before k own
    ((Track.start.after c (requestsOf k own older)).advance c act.before.state.now)
  := by
  have before := reached_of_split reached split
  rw [split] at owns apart
  rw [List.append_cons, requestsOf, List.filter_append, List.map_append, Track.apart_append,
    ← requestsOf, requestsOf_concat, if_pos mine, Track.apart_append] at apart
  obtain ⟨v, mirrors, same⟩ := mirrors_of_reached sharp alike before
    (fun act mem => owns act (List.mem_append_left _ mem)) apart.1.1
  exact mirrors_of_clear sharp before mirrors (same _ (Nat.le_refl _)) apart.1.2.1

/-! ### Requests that meet nothing -/

/-- No window of the session closes and no call of it ends at the time of the request: none is
about to, and none has. -/
structure Act.Clear (c : Coalescer α ρ) (k : σ) (act : Act σ α ρ) : Prop where
  ahead : ∀ a ∈ act.before.timers k ++ act.before.executions k, a.due ≠ act.before.state.now
  behind : ∀ made ∈ act.before.state.calls, (made.session == k) = true →
    made.time ≠ act.before.state.now ∧ made.endsAt c ≠ act.before.state.now

instance (c : Coalescer α ρ) (k : σ) (act : Act σ α ρ) : Decidable (act.Clear c k) :=
  decidable_of_iff
    ((∀ a ∈ act.before.timers k ++ act.before.executions k, a.due ≠ act.before.state.now)
      ∧ ∀ made ∈ act.before.state.calls, (made.session == k) = true →
        made.time ≠ act.before.state.now ∧ made.endsAt c ≠ act.before.state.now)
    ⟨fun clear => ⟨clear.1, clear.2⟩, fun clear => ⟨clear.ahead, clear.behind⟩⟩

/-- Time does nothing to the track of a session when a request meets nothing. -/
theorem advance_of_clear (sharp : c.clock.Sharp Comes) (reached : Reached c log m)
    (mirrors : Mirrors m k own v) {q : Request σ α}
    (clear : Act.Clear c k { before := m, request := q }) :
  v.advance c m.state.now = v ∧ v.Clear c m.state.now
  := by
  have ahead := ahead_of_mirrors sharp reached mirrors
  have stages := mirrors.stage
  have window (closes : Nat) (args : α) (stage : v.stage = .waiting closes args) :
      closes ≠ m.state.now := by
    rw [stage] at stages
    obtain ⟨a, timer, rfl⟩ := stages.timer
    apply clear.ahead a (List.mem_append_left _ timer)
  have call (ends : Nat) (args : α) (stage : v.stage = .calling ends args) :
      ends ≠ m.state.now := by
    rw [stage] at stages
    obtain ⟨a, execution, rfl⟩ := stages.execution
    apply clear.ahead a (List.mem_append_right _ execution)
  constructor
  · apply Track.advance_of_ahead
    · intro closes args stage
      apply Nat.lt_of_le_of_ne (ahead.window closes args stage) (window closes args stage).symm
    · intro ends args stage
      apply Nat.lt_of_le_of_ne (ahead.call ends args stage).1 (call ends args stage).symm
  · use window, call
    rw [mirrors.books.calls, callsOf, List.forall_mem_map]
    intro made mem
    obtain ⟨mem, session⟩ := List.mem_filter.mp mem
    obtain ⟨began, ended⟩ := clear.behind made mem session
    use began
    intro lasting
    rw [Made.endsAt, if_neg lasting, Nat.max_eq_right (sharp.le_after _ _)] at ended
    exact ended

theorem apart_of_clear (sharp : c.clock.Sharp Comes)
    (alike : ∀ number number' args, c.result number args = c.result number' args)
    (reached : Reached c log m) (owns : ∀ act ∈ log, act.Owns k own)
    (clear : ∀ act ∈ log, act.isOf k own = true → act.Clear c k) :
  Track.start.Apart c (requestsOf k own log)
  := by
  induction reached with
  | start => trivial
  | @ask log m q before ih =>
    rw [List.forall_mem_append, List.forall_mem_singleton] at owns clear
    have apart := ih owns.1 clear.1
    rw [requestsOf_concat, Track.apart_append]
    use apart
    split
    · rename_i mine
      obtain ⟨v, mirrors, same⟩ := mirrors_of_reached sharp alike before owns.1 apart
      have steady := advance_of_clear sharp before mirrors (clear.2 mine)
      rw [same _ (Nat.le_refl _)] at steady
      refine ⟨?_, trivial⟩
      simp only [Act.timed, steady.1]
      exact steady.2
    · trivial
  | sleep _ _ ih => apply ih owns clear
  | jump _ ih => apply ih owns clear
  | perform _ ih => apply ih owns clear

end ReflexPolicy.Coalescer
