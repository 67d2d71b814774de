import ReflexPolicy.Proofs.Coalescer.Turns

/-!
# One call at a time

At every moment each session is in a phase, and a window that is open is that of the last submit
which touched the session.  From this it follows that nothing is forgotten on any way: a slot is
kept as long as it is needed, a window has its timer, and no call of a session begins before the
one before it has ended.
-/

namespace ReflexPolicy.Coalescer

variable {σ α ρ : Type} [BEq σ]

/-! ### The last request that touched a session -/

/-- No request after this one touched the session. -/
def Latest (log : List (Act σ α ρ)) (k : σ) (act : Act σ α ρ) : Prop :=
  ∃ older newer, log = older ++ act :: newer ∧ ∀ b ∈ newer, ¬b.Touches k

theorem latest_self (log : List (Act σ α ρ)) (k : σ) (act : Act σ α ρ) :
  Latest (log ++ [act]) k act
  := ⟨log, [], rfl, by simp⟩

theorem Latest.concat {log : List (Act σ α ρ)} {k : σ} {act b : Act σ α ρ}
    (latest : Latest log k act) (other : ¬b.Touches k) :
  Latest (log ++ [b]) k act
  := by
  obtain ⟨older, newer, rfl, others⟩ := latest
  use older, newer ++ [b]
  constructor
  · simp
  · rw [List.forall_mem_append]
    exact ⟨others, by simpa using other⟩

theorem Latest.of_concat {log : List (Act σ α ρ)} {k : σ} {act b : Act σ α ρ}
    (latest : Latest (log ++ [b]) k act) :
  act = b ∨ ¬b.Touches k ∧ Latest log k act
  := by
  obtain ⟨older, newer, split, others⟩ := latest
  obtain rfl | ⟨init, last, rfl⟩ := List.eq_nil_or_concat newer
  · obtain ⟨-, same⟩ := List.append_inj' split rfl
    cases same
    exact .inl rfl
  · rw [List.concat_eq_append] at split others
    rw [← List.cons_append, ← List.append_assoc] at split
    obtain ⟨rest, same⟩ := List.append_inj' split rfl
    cases same
    obtain ⟨before, untouched⟩ := List.forall_mem_append.mp others
    exact .inr ⟨untouched b (List.mem_singleton_self b), older, init, rest, before⟩

/-- A window is open because of the last submit that touched the session: it has its arguments,
closes one wait after it, and its waiter came last. -/
def Phase.IsOf (c : Coalescer α ρ) (log : List (Act σ α ρ)) (k : σ) : Phase α → Prop
  | waiting closes waiters args => ∃ act, Latest log k act ∧ act.Joins k args
    ∧ closes = c.clock.after act.before.state.now c.wait
    ∧ ∃ earlier, waiters = earlier ++ [act.before.state.submits]
  | _ => True

theorem Phase.IsOf.concat {c : Coalescer α ρ} {log : List (Act σ α ρ)} {k : σ} {b : Act σ α ρ}
    {p : Phase α} (is : p.IsOf c log k) (other : ¬b.Touches k) :
  p.IsOf c (log ++ [b]) k
  := by
  cases p with
  | idle => trivial
  | waiting closes waiters args =>
    obtain ⟨act, latest, rest⟩ := is
    exact ⟨act, latest.concat other, rest⟩
  | calling => trivial

variable {c : Coalescer α ρ} {log : List (Act σ α ρ)} {m : Moment σ α ρ}

/-! ### What a session has under way -/

/-- What is stored and scheduled for a session fits together. -/
structure Coherent (log : List (Act σ α ρ)) (m : Moment σ α ρ) (k : σ) : Prop where
  stored : Entries.has m.state.slots k = (m.state.isPending k || m.state.isRunning k)
  apart : m.state.isPending k = true → m.state.isRunning k = false
  timer : (m.timers k).length = if m.state.isPending k then 1 else 0
  /-- The arguments of an open window are those of the last submit that joined it. -/
  latest : m.state.isPending k = true → ∃ act args earlier, Latest log k act ∧ act.Joins k args
    ∧ (m.state.slot k).args = some args
    ∧ (m.state.slot k).window = some (earlier ++ [act.before.state.submits])
  cleared : m.state.isPending k = false →
    (m.state.slot k).args = none ∧ (m.state.slot k).timer = none
  execution : (m.executions k).length = if m.state.isRunning k then 1 else 0

theorem coherent_of_stands {k : σ} {p : Phase α} (stands : Stands m k p) (is : p.IsOf c log k) :
  Coherent log m k
  where
    stored := by rw [stands.has, stands.isPending, stands.isRunning]
    apart := by
      rw [stands.isPending, stands.isRunning]
      cases p with
      | idle => simp [Phase.isWaiting]
      | waiting => simp [Phase.isCalling]
      | calling => simp [Phase.isWaiting]
    timer := by rw [stands.length_timers, stands.isPending]
    latest := by
      rw [stands.isPending]
      intro waits
      cases stands with
      | idle => cases waits
      | waiting slot =>
        obtain ⟨act, latest, joins, -, earlier, rfl⟩ := is
        rw [slot_of_get? slot]
        exact ⟨act, _, earlier, latest, joins, rfl, rfl⟩
      | calling => cases waits
    cleared := by
      rw [stands.isPending]
      intro closed
      cases stands with
      | idle slot =>
        rw [slot_of_none slot]
        exact ⟨rfl, rfl⟩
      | waiting => cases closed
      | calling slot =>
        rw [slot_of_get? slot]
        exact ⟨rfl, rfl⟩
    execution := by rw [stands.length_executions, stands.isRunning]

/-! ### Every moment -/

theorem sound_of_reached (reached : Reached c log m) :
  m.Sound
  := by
  induction reached with
  | start =>
    exact {
      filled := Agenda.filled_empty
      numbered := by
        intro a mem
        cases mem }
  | ask q _ ih => exact sound_ask ih q
  | sleep time _ ih => exact sound_appoint ih time .wake
  | jump _ ih => exact sound_pass (sound_jump c (sound_tidy ih))
  | perform _ ih => exact sound_perform ih

variable [EquivBEq σ]

theorem still_turn {s : State σ α ρ} (sound : Moment.Sound { state := s, due := [] }) (k : σ) :
  Still { state := s, due := [] } { state := (c.jump s.tidy).1.pass, due := (c.jump s.tidy).2 } k
  := by
  have tidied := sound_tidy sound
  apply (still_tidy sound k).trans
  apply (still_jump c s.tidy k).trans
  apply still_pass (sound_jump c tidied) k

/-- At every moment each session is in a phase that its requests account for. -/
theorem phase_of_reached (reached : Reached c log m) (k : σ) :
  ∃ p, Stands m k p ∧ p.IsOf c log k
  := by
  induction reached generalizing k with
  | start => exact ⟨.idle, .idle rfl rfl rfl, trivial⟩
  | @ask log m q before ih =>
    obtain ⟨p, stands, is⟩ := ih k
    have sound := sound_of_reached before
    by_cases touches : Act.Touches { before := m, request := q } k
    · obtain ⟨args, joins⟩ | leaves := touches
      · exact ⟨_, stands_of_joins sound joins stands, _, latest_self log k _, joins, rfl, _, rfl⟩
      · exact ⟨.idle, stands_of_leaves sound leaves stands, trivial⟩
    · exact ⟨p, stands_of_not_touches sound touches stands, is.concat touches⟩
  | sleep time before ih =>
    obtain ⟨p, stands, is⟩ := ih k
    exact ⟨p, (still_appoint time rfl).stands stands, is⟩
  | jump before ih =>
    obtain ⟨p, stands, is⟩ := ih k
    exact ⟨p, (still_turn (sound_of_reached before) k).stands stands, is⟩
  | perform before ih =>
    obtain ⟨p, stands, is⟩ := ih k
    have phases := fun k => (ih k).imp fun _ => And.left
    obtain ⟨p', after, same | idle | calling⟩ := (performed_of_phases phases).stands stands
    · exact ⟨p', after, same ▸ is⟩
    · exact ⟨p', after, idle ▸ trivial⟩
    · exact ⟨p', after, calling ▸ trivial⟩

theorem phases_of_reached (reached : Reached c log m) (k : σ) :
  ∃ p, Stands m k p
  := by
  obtain ⟨p, stands, -⟩ := phase_of_reached reached k
  use p

/-- A call begins only when no call of its session runs, and has the arguments of the window. -/
theorem begins_of_reached (reached : Reached c log m) {a : Appointment (Deed σ)}
    {due : List (Appointment (Deed σ))} (next : m.due = a :: due) :
  (c.perform m.state a).calls = m.state.calls
    ∨ ∃ made : Made σ α, (c.perform m.state a).calls = m.state.calls ++ [made]
      ∧ m.state.isRunning made.session = false ∧ m.executions made.session = []
      ∧ (m.state.slot made.session).args = some made.args
  := by
  obtain ⟨s, _⟩ := m
  cases next
  cases performed_of_phases (c := c) (phases_of_reached reached) with
  | nothing _ calls => exact .inl calls
  | @called k waiters args _ before _ _ calls =>
    right
    obtain ⟨b, -, -, nothing, slot⟩ := before.of_waiting
    refine ⟨_, calls, ?_, nothing, ?_⟩
    · apply before.isRunning
    · rw [slot_of_get? slot]
  | finished _ _ _ calls => exact .inl calls

/-- When no timer is left and no call runs, nothing is stored. -/
theorem slots_of_reached (reached : Reached c log m)
    (nothing : ∀ k, m.timers k = [] ∧ m.executions k = []) :
  m.state.slots = []
  := by
  cases stored : m.state.slots with
  | nil => rfl
  | cons e rest =>
    have slot : Entries.get? m.state.slots e.1 = some e.2 := by
      rw [stored, Entries.get?, if_pos BEq.rfl]
    obtain ⟨p, stands, -⟩ := phase_of_reached reached e.1
    obtain ⟨noTimer, noExecution⟩ := nothing e.1
    cases stands with
    | idle none => rw [none] at slot; cases slot
    | waiting _ timer => rw [timer] at noTimer; cases noTimer
    | calling _ _ execution => rw [execution] at noExecution; cases noExecution

/-- At every moment, what is stored and scheduled for each session fits together; calls begin one
at a time for each session; and without timers and running calls nothing is stored. -/
theorem coherent_of_reached (reached : Reached c log m) :
  (∀ k, Coherent log m k)
    ∧ (∀ a due, m.due = a :: due → (c.perform m.state a).calls = m.state.calls
      ∨ ∃ made : Made σ α, (c.perform m.state a).calls = m.state.calls ++ [made]
        ∧ m.state.isRunning made.session = false ∧ m.executions made.session = []
        ∧ (m.state.slot made.session).args = some made.args)
    ∧ ((∀ k, m.timers k = [] ∧ m.executions k = []) → m.state.slots = [])
  := by
  constructor
  · intro k
    obtain ⟨p, stands, is⟩ := phase_of_reached reached k
    apply coherent_of_stands stands is
  · exact ⟨fun _ _ => begins_of_reached reached, slots_of_reached reached⟩

/-- A coalescer of numbered sessions that waits for eight ticks, and whose calls take five. -/
def smallCoalescer : Coalescer String Nat where
  clock := .exact
  wait := 8
  duration := fun _ => 5
  result := fun number _ => .value number

/-- A session whose second submit is called while a third one shares the call, and a session that
gives up its first window. -/
def smallRequests : List (Timed Nat String) :=
  [{ time := 0, request := .submit 1 "first" },
    { time := 3, request := .submit 1 "second" },
    { time := 12, request := .submit 1 "shared" },
    { time := 13, request := .submit 2 "other" },
    { time := 14, request := .cancel 2 },
    { time := 20, request := .submit 2 "again" }]

theorem coherent_smallRequests :
  (∀ k, Coherent (smallCoalescer.acts .start smallRequests)
      { state := (smallCoalescer.run .start smallRequests).1, due := [] } k)
    ∧ (smallCoalescer.run .start smallRequests).1.isPending 2 = true
    ∧ Reached smallCoalescer (smallCoalescer.acts .start smallRequests)
      { state := (smallCoalescer.run .start smallRequests).1, due := [] }
  := by
  have reached := reached_run (c := smallCoalescer) smallRequests .start
  exact ⟨(coherent_of_reached reached).1, by decide +kernel, reached⟩

end ReflexPolicy.Coalescer
