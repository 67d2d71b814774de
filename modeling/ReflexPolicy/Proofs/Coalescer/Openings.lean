import ReflexPolicy.Proofs.Coalescer.Dropping

/-!
# Open windows

A window is open since a submit which found nothing under way, and its waiters are those of the
submits of its session since then: `opened_of_reached`.  It is open exactly if the last request that
touched the session was a submit, whose wait is not over: `isPending_iff`.
-/

namespace ReflexPolicy.Coalescer

variable {σ α ρ : Type} [BEq σ]

/-- The waiters of the submits of a session. -/
def submitters (k : σ) (log : List (Act σ α ρ)) : List Nat :=
  (log.filter (·.request.isSubmitOf k)).map (·.before.state.submits)

/-- A request has opened the window of a session, and none has given it up since. -/
structure Opened (k : σ) (act : Act σ α ρ) (newer : List (Act σ α ρ)) (waiters : List Nat) :
    Prop where
  submits : act.request.isSubmitOf k = true
  closed : act.before.state.isPending k = false
  free : act.before.state.isRunning k = false
  waits : ∀ b ∈ newer, b.before.state.isPending k = true ∧ ¬b.Leaves k
  waiters : waiters = submitters k (act :: newer)

variable {c : Coalescer α ρ} {log : List (Act σ α ρ)} {m : Moment σ α ρ} {k : σ}

theorem submitters_concat (k : σ) (log : List (Act σ α ρ)) (act : Act σ α ρ) :
  submitters k (log ++ [act]) =
    submitters k log
      ++ if act.request.isSubmitOf k then [act.before.state.submits] else []
  := by
  rw [submitters, List.filter_append, List.map_append, List.filter_singleton]
  cases act.request.isSubmitOf k <;> rfl

theorem isSubmitOf_of_joins {act : Act σ α ρ} {args : α} (joins : act.Joins k args) :
  act.request.isSubmitOf k = true
  := by
  obtain ⟨k', request, same, -⟩ := joins
  rw [request]
  exact same

/-- The window is still open when a request comes, which adds a waiter if it is a submit. -/
theorem Opened.concat {act b : Act σ α ρ} {newer : List (Act σ α ρ)} {waiters : List Nat}
    (opened : Opened k act newer waiters) (pending : b.before.state.isPending k = true)
    (stays : ¬b.Leaves k) :
  Opened k act (newer ++ [b])
    (waiters ++ if b.request.isSubmitOf k then [b.before.state.submits] else [])
  where
    submits := opened.submits
    closed := opened.closed
    free := opened.free
    waits := by
      rw [List.forall_mem_append, List.forall_mem_singleton]
      exact ⟨opened.waits, pending, stays⟩
    waiters := by rw [← List.cons_append, submitters_concat, opened.waiters]

/-- One of the requests has opened a window for the waiters. -/
def HasOpened (k : σ) (log : List (Act σ α ρ)) (waiters : List Nat) : Prop :=
  ∃ older act newer, log = older ++ act :: newer ∧ Opened k act newer waiters

theorem HasOpened.concat {b : Act σ α ρ} {waiters : List Nat} (opened : HasOpened k log waiters)
    (pending : b.before.state.isPending k = true) (stays : ¬b.Leaves k) :
  HasOpened k (log ++ [b])
    (waiters ++ if b.request.isSubmitOf k then [b.before.state.submits] else [])
  := by
  obtain ⟨older, act, newer, rfl, opened⟩ := opened
  exact ⟨older, act, newer ++ [b], by simp, opened.concat pending stays⟩

theorem Act.Joins.not_leaves {act : Act σ α ρ} {args : α} (joins : act.Joins k args) :
  ¬act.Leaves k
  := by
  rintro ⟨k', cancels, -⟩
  obtain ⟨k'', submits, -⟩ := joins
  rw [submits] at cancels
  cases cancels

variable [EquivBEq σ]

/-- A submit opens a window or joins the one that is open, and an open window stays so at other
requests unless it is given up. -/
theorem hasOpened_ask (reached : Reached c log m)
    (hasOpened : ∀ {closes waiters args}, Stands m k (.waiting closes waiters args) →
      HasOpened k log waiters)
    (q : Request σ α) {closes : Nat} {waiters : List Nat} {args : α}
    (stands : Stands { m with state := c.apply m.state q } k (.waiting closes waiters args)) :
  HasOpened k (log ++ [{ before := m, request := q }]) waiters
  := by
  have sound := sound_of_reached reached
  obtain ⟨p, before⟩ := phases_of_reached reached k
  by_cases touches : Act.Touches { before := m, request := q } k
  · obtain ⟨args', joins⟩ | leaves := touches
    · have isSubmit := isSubmitOf_of_joins joins
      cases stands.unique (stands_of_joins sound joins before)
      cases p with
      | idle =>
        refine ⟨log, { before := m, request := q }, [], rfl, isSubmit, before.isPending,
          before.isRunning, nofun, ?_⟩
        rw [submitters, List.filter_singleton, isSubmit]
        rfl
      | waiting closes' waiters' args' =>
        have more := (hasOpened before).concat before.isPending joins.not_leaves
        rw [if_pos isSubmit] at more
        exact more
      | calling =>
        obtain ⟨-, -, -, free⟩ := joins
        rw [before.isRunning] at free
        cases free
    · cases stands.unique (stands_of_leaves sound leaves before)
  · cases stands.unique (stands_of_not_touches sound touches before)
    have more := (hasOpened before).concat (b := { before := m, request := q }) before.isPending
      fun leaves => touches (.inr leaves)
    -- A submit would have joined the window.
    have other : ¬q.isSubmitOf k = true := by
      intro submits
      cases q with
      | submit k' args' => exact touches (.inl ⟨args', k', rfl, submits, before.isRunning⟩)
      | _ => cases submits
    rw [if_neg other, List.append_nil] at more
    exact more

/-- An open window goes back to a submit. -/
theorem opened_of_reached (reached : Reached c log m) {closes : Nat} {waiters : List Nat} {args : α}
    (stands : Stands m k (.waiting closes waiters args)) :
  HasOpened k log waiters
  := by
  induction reached generalizing closes waiters args with
  | start => cases stands with | waiting slot => cases slot
  | @ask log m q before ih => exact hasOpened_ask before ih q stands
  | @sleep log m time before ih =>
    obtain ⟨p, stands'⟩ := phases_of_reached before k
    cases stands.unique ((still_appoint time rfl).stands stands')
    exact ih stands'
  | @jump log s before ih =>
    obtain ⟨p, stands'⟩ := phases_of_reached before k
    cases stands.unique ((still_turn (sound_of_reached before) k).stands stands')
    exact ih stands'
  | @perform log s a due before ih =>
    obtain ⟨p, stands'⟩ := phases_of_reached before k
    have performed := performed_of_phases (c := c) (phases_of_reached before)
    obtain ⟨p', after, same | idle | calling⟩ := performed.stands stands'
    · cases stands.unique after
      cases same
      exact ih stands'
    · rw [idle] at after
      cases stands.unique after
    · rw [calling] at after
      cases stands.unique after

/-- A window closes by its own timer only, which is punctual. -/
theorem stands_perform {Comes : Nat → Prop} (sharp : c.clock.Sharp Comes) {s : State σ α ρ}
    {a : Appointment (Deed σ)} {due : List (Appointment (Deed σ))}
    (reached : Reached c log { state := s, due := a :: due }) {closes : Nat} {waiters : List Nat}
    {args : α} (stands : Stands { state := s, due := a :: due } k (.waiting closes waiters args)) :
  Stands { state := c.perform s a, due := due } k (.waiting closes waiters args)
    ∨ closes = s.now
  := by
  cases performed_of_phases (c := c) (phases_of_reached reached) with
  | nothing still => exact .inl ((still k).stands stands)
  | @called k' _ _ deed own _ others =>
    by_cases same : (k' == k) = true
    · have asleep : wakes a = false := by rw [wakes, deed]
      obtain ⟨due, -⟩ := Phase.waiting.inj (stands.unique (own.congr same))
      right
      rw [due]
      exact (punctual_of_reached sharp reached List.mem_cons_self asleep).symm
    · exact .inl ((others k (by simpa using same)).stands stands)
  | @finished k' own _ others =>
    by_cases same : (k' == k) = true
    · cases stands.unique (own.congr same)
    · exact .inl ((others k (by simpa using same)).stands stands)

/-- A window waits for the last request that touched its session, or its time has come. -/
theorem waits_of_latest {Comes : Nat → Prop} (sharp : c.clock.Sharp Comes)
    (reached : Reached c log m) {act : Act σ α ρ} (latest : Latest log k act) {args : α}
    (joins : act.Joins k args) :
  (∃ waiters, Stands m k (.waiting (act.closesAt c) waiters args))
    ∨ act.closesAt c ≤ m.state.now
  := by
  induction reached with
  | start =>
    obtain ⟨older, newer, split, -⟩ := latest
    cases older <;> cases split
  | @ask log m q before ih =>
    have sound := sound_of_reached before
    obtain rfl | ⟨untouched, latest⟩ := latest.of_concat
    · obtain ⟨p, stands⟩ := phases_of_reached before k
      exact .inl ⟨_, stands_of_joins sound joins stands⟩
    · obtain ⟨waiters, stands⟩ | passed := ih latest
      · exact .inl ⟨waiters, stands_of_not_touches sound untouched stands⟩
      · right
        rw [(apply_frame c m.state q).1]
        exact passed
  | @sleep log m time before ih =>
    obtain ⟨waiters, stands⟩ | passed := ih latest
    · exact .inl ⟨waiters, (still_appoint time rfl).stands stands⟩
    · exact .inr passed
  | @jump log s before ih =>
    obtain ⟨waiters, stands⟩ | passed := ih latest
    · exact .inl ⟨waiters, (still_turn (sound_of_reached before) k).stands stands⟩
    · right
      apply Nat.le_trans passed
      rw [State.now_pass, ← s.now_pass]
      apply (now_jump c (s.trims_tidy.ordered (ordered_of_reached before))).1
  | @perform log s a due before ih =>
    rw [(perform_frame c s a).1]
    obtain ⟨waiters, stands⟩ | passed := ih latest
    · obtain after | now := stands_perform sharp before stands
      · exact .inl ⟨waiters, after⟩
      · exact .inr (Nat.le_of_eq now)
    · exact .inr passed

/-- A window is open exactly if the last request that touched the session was a submit whose wait is
not over, unless it closes at this very time. -/
theorem isPending_iff {Comes : Nat → Prop} (sharp : c.clock.Sharp Comes) (reached : Reached c log m)
    (apart : ∀ a ∈ m.timers k, a.due ≠ m.state.now) :
  m.state.isPending k = true ↔ ∃ act args, Latest log k act ∧ act.Joins k args
    ∧ m.state.now < act.closesAt c
  := by
  constructor
  · intro pending
    obtain ⟨p, stands, is⟩ := phase_of_reached reached k
    rw [stands.isPending] at pending
    cases p with
    | waiting closes waiters args =>
      obtain ⟨act, latest, joins, rfl, -⟩ := is
      refine ⟨act, args, latest, joins, ?_⟩
      obtain ⟨a, due, timers, -⟩ := stands.of_waiting
      have timer : a ∈ m.timers k := by
        rw [timers]
        apply List.mem_singleton_self
      obtain ⟨mem, closing⟩ := List.mem_filter.mp timer
      rw [Bool.and_eq_true] at closing
      rw [Act.closesAt, ← due]
      apply Nat.lt_of_le_of_ne _ (apart a timer).symm
      apply le_due_of_reached sharp reached mem (wakes_of_closes closing.1)
    | _ => cases pending
  · rintro ⟨act, args, latest, joins, less⟩
    obtain ⟨waiters, stands⟩ | passed := waits_of_latest sharp reached latest joins
    · exact stands.isPending
    · exact absurd passed (Nat.not_le_of_gt less)

end ReflexPolicy.Coalescer
