import ReflexPolicy.Proofs.Coalescer.Sleep

/-!
# Waiters that are leaving

The waiters of a window that has been given up stay to be dropped until a turn goes by.  A request
takes a turn, except a probe, and so does time that passes.  So a waiter is leaving at a request of
a run exactly if its window was given up at that very time and nothing but probes came since:
`leaving_run`.
-/

namespace ReflexPolicy.Coalescer

variable {σ α ρ : Type}

/-- The request takes no turn. -/
def Request.probes : Request σ α → Bool
  | .probe _ => true
  | _ => false

variable [BEq σ] {c : Coalescer α ρ} {log : List (Act σ α ρ)} {s : State σ α ρ} {w : Nat}
  {Comes : Nat → Prop}

/-- The window of a waiter was given up at some time, and certain requests came since. -/
def LeftAt (log : List (Act σ α ρ)) (time w : Nat) (since : List (Act σ α ρ)) : Prop :=
  ∃ older b k, log = older ++ b :: since ∧ b.request = .cancel k
    ∧ w ∈ b.before.state.windowWaiters k ∧ b.before.state.now = time

/-- The window of a waiter was given up at some time, and no turn has gone by since. -/
def Lingers (log : List (Act σ α ρ)) (time w : Nat) : Prop :=
  ∃ since, LeftAt log time w since ∧ ∀ act ∈ since, act.request.probes = true

theorem lingers_concat {act : Act σ α ρ} {time : Nat} :
  Lingers (log ++ [act]) time w ↔
    (∃ k, act.request = .cancel k ∧ w ∈ act.before.state.windowWaiters k
      ∧ act.before.state.now = time) ∨ act.request.probes = true ∧ Lingers log time w
  := by
  constructor
  · rintro ⟨since, ⟨older, b, k, split, left⟩, probes⟩
    obtain rfl | ⟨init, last, rfl⟩ := List.eq_nil_or_concat since
    · obtain ⟨-, same⟩ := List.append_inj' split rfl
      cases same
      exact .inl ⟨k, left⟩
    · rw [List.concat_eq_append] at split probes
      rw [← List.cons_append, ← List.append_assoc] at split
      obtain ⟨rfl, same⟩ := List.append_inj' split rfl
      cases same
      rw [List.forall_mem_append, List.forall_mem_singleton] at probes
      exact .inr ⟨probes.2, init, ⟨older, b, k, rfl, left⟩, probes.1⟩
  · rintro (⟨k, request, mem, now⟩ | ⟨probes, since, ⟨older, b, k, rfl, left⟩, all⟩)
    · exact ⟨[], ⟨log, act, k, rfl, request, mem, now⟩, nofun⟩
    · refine ⟨since ++ [act], ⟨older, b, k, ?_, left⟩, ?_⟩
      · simp
      · rw [List.forall_mem_append, List.forall_mem_singleton]
        exact ⟨all, probes⟩

theorem mem_leaving_apply (c : Coalescer α ρ) (s : State σ α ρ) (q : Request σ α) :
  w ∈ (c.apply s q).leaving ↔
    (∃ k, q = .cancel k ∧ w ∈ s.windowWaiters k) ∨ q.probes = true ∧ w ∈ s.leaving
  := by
  cases q with
  | submit k args =>
    have gone : (c.apply s (.submit k args)).leaving = [] := by
      rw [apply, submit]
      split <;> rfl
    simp [gone, Request.probes]
  | refused cause => simp [apply, State.refuse, State.settle, State.pass, Request.probes]
  | cancel k => simp [apply, Request.probes]
  | probe k => simp [apply, Request.probes]
  | drop w' => simp [apply, State.pass, Request.probes]

/-! ### Time that passes -/

theorem leaving_perform (c : Coalescer α ρ) (s : State σ α ρ) (a : Appointment (Deed σ)) :
  (c.perform s a).leaving = s.leaving
  := by
  have finished (s : State σ α ρ) (k : σ) : (c.finish s k).leaving = s.leaving := by
    simp only [finish, State.putUnlessIdle, State.settle, State.put]
    split
    · split <;> rfl
    · rfl
  rw [perform]
  split
  · rfl
  · cases a.deed with
    | close k =>
      simp only [close]
      split
      · split
        · apply finished
        · rfl
      · rfl
    | finish k => apply finished
    | wake => rfl

theorem leaving_turn (c : Coalescer α ρ) (s : State σ α ρ) :
  (c.turn s).1.leaving = []
  := by
  have folded (due : List (Appointment (Deed σ))) (s : State σ α ρ) :
      (due.foldl c.perform s).leaving = s.leaving := by
    induction due generalizing s with
    | nil => rfl
    | cons a rest ih => rw [List.foldl_cons, ih, leaving_perform]
  rw [turn_eq, folded]
  rfl

theorem leaving_turnsUntilAwake {fuel : Nat} (some : fuel ≠ 0) (s : State σ α ρ) :
  (c.turnsUntilAwake fuel s).leaving = []
  := by
  induction fuel generalizing s with
  | zero => exact absurd rfl some
  | succ fuel ih =>
    simp only [turnsUntilAwake]
    split
    · apply leaving_turn
    · cases fuel with
      | zero => apply leaving_turn
      | succ fuel => apply ih (Nat.succ_ne_zero fuel)

/-- Nobody is leaving any more after a sleep. -/
theorem leaving_sleepUntil (c : Coalescer α ρ) (time : Nat) (s : State σ α ρ) :
  (c.sleepUntil time s).leaving = if time ≤ s.now then s.leaving else []
  := by
  rw [sleepUntil]
  split
  · rfl
  · apply leaving_turnsUntilAwake
    rw [turnsFor, Agenda.size, ← Heap.length_members]
    have one := (Agenda.members_add s.agenda
      (c.clock.after s.now (c.clock.between s.now time)) (.wake : Deed σ)).length_eq
    rw [List.length_cons] at one
    change 2 * (Agenda.add s.agenda _ _).members.length ≠ 0
    omega

/-! ### Runs -/

theorem leaving_acts [EquivBEq σ] (sharp : c.clock.Sharp Comes) {requests : List (Timed σ α)}
    (comes : ∀ r ∈ requests, Comes r.time) (coming : Comes s.now)
    (reached : Reached c log { state := s, due := [] }) (rested : Rested c.clock s)
    (later : ∀ r ∈ requests, s.now ≤ r.time)
    (sorted : requests.Pairwise fun r r' => r.time ≤ r'.time)
    (past : ∀ act ∈ log, act.before.state.now ≤ s.now)
    (leaving : ∀ w, w ∈ s.leaving ↔ Lingers log s.now w) {older newer : List (Act σ α ρ)}
    {act : Act σ α ρ} (split : c.acts s requests = older ++ act :: newer) :
  ∀ w, w ∈ act.before.state.leaving ↔ Lingers (log ++ older) act.before.state.now w
  := by
  induction requests generalizing log s older with
  | nil => cases older <;> cases split
  | cons r rest ih =>
    rw [List.forall_mem_cons] at comes later
    rw [List.pairwise_cons] at sorted
    have slept := reached_sleepUntil r.time reached
    obtain ⟨now, awake⟩ := now_sleepUntil sharp comes.1 coming reached rested later.1
    have here (w : Nat) : w ∈ (c.sleepUntil r.time s).leaving
        ↔ Lingers log (c.sleepUntil r.time s).now w := by
      rw [leaving_sleepUntil]
      split
      · rename_i soon
        rw [now, Nat.le_antisymm soon later.1]
        apply leaving
      · -- What was given up before was given up at another time.
        rename_i wait
        constructor
        · nofun
        · rintro ⟨since, ⟨older, b, k, rfl, -, -, time⟩, -⟩
          have before := past b (by simp)
          rw [time, now] at before
          apply absurd before wait
    cases older with
    | nil =>
      cases split
      rw [List.append_nil]
      apply here
    | cons first older =>
      rw [acts, List.cons_append, List.cons.injEq] at split
      obtain ⟨rfl, split⟩ := split
      rw [List.append_cons]
      have same := (apply_frame c (c.sleepUntil r.time s) r.request).1
      have rests := rested_apply sharp (sound_of_reached slept) awake r.request
      apply ih comes.2 _ (slept.ask r.request) rests _ sorted.2 _ _ split
      · rw [same, now]
        apply comes.1
      · intro r' mem
        rw [same, now]
        apply sorted.1 r' mem
      · rw [List.forall_mem_append, List.forall_mem_singleton]
        constructor
        · intro act mem
          rw [same, now]
          apply Nat.le_trans (past act mem) later.1
        · exact Nat.le_of_eq same.symm
      · intro w
        rw [mem_leaving_apply, lingers_concat, here, same]
        simp

/-- In a run a waiter is leaving if its window was given up and no turn has gone by since. -/
theorem leaving_run [EquivBEq σ] (sharp : c.clock.Sharp Comes) {requests : List (Timed σ α)}
    (comes : ∀ r ∈ requests, Comes r.time)
    (sorted : requests.Pairwise fun r r' => r.time ≤ r'.time) {older newer : List (Act σ α ρ)}
    {act : Act σ α ρ} (split : c.acts .start requests = older ++ act :: newer) (w : Nat) :
  w ∈ act.before.state.leaving ↔ Lingers older act.before.state.now w
  := by
  apply leaving_acts sharp comes sharp.zero .start (rested_start _) _ sorted nofun _ split
  · intro r _
    apply Nat.zero_le
  · intro w
    constructor
    · nofun
    · rintro ⟨_, ⟨older, _, _, split, -⟩, -⟩
      cases older <;> cases split

end ReflexPolicy.Coalescer
