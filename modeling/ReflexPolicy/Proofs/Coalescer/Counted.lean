import ReflexPolicy.Proofs.Binary64.Places
import ReflexPolicy.Proofs.Coalescer.Sleep
import ReflexPolicy.Proofs.Coalescer.Ticks

/-!
# Clocks that tell a run's times apart

A clock may round, and may take for due already what is due a little later.  Where it does not do
the latter it is as good as a sharp clock: a run whose times it tells apart is the run with the
sharpened clock, by `runOut_sharpened`.  Which times there are is said by the requests: those at
which they come, at which the windows of submits close, and at which their calls end.
-/

namespace ReflexPolicy

namespace Clock

/-- What is due at one of the times is not due yet at an earlier one. -/
def Tells (clock : Clock) (Holds : Nat → Prop) : Prop :=
  ∀ tick tick', Holds tick → Holds tick' → tick < tick' → clock.horizon tick ≤ tick'

/-- Requests come at some times, and a sleep from one of them to another ends there.  Those and
further times are told apart by the clock, and so is what is due long after a request. -/
structure Counts (clock : Clock) (Comes Holds : Nat → Prop) : Prop where
  zero : Comes 0
  holds : ∀ tick, Comes tick → Holds tick
  sleeps : ∀ tick tick', Comes tick → Comes tick' → tick ≤ tick' →
    clock.after tick (clock.between tick tick') = tick'
  tells : ∀ tick, Comes tick → clock.Tells fun due => Holds due ∨ due = tick + unitsLimit

/-- The clock that rounds alike, but counts no time from a later one and takes nothing for due that
is not. -/
def sharpened (clock : Clock) : Clock where
  after := fun tick span => max tick (clock.after tick span)
  between := clock.between
  horizon := fun tick => tick + 1

theorem sharpened_after {clock : Clock} {tick span : Nat} (later : tick ≤ clock.after tick span) :
  clock.sharpened.after tick span = clock.after tick span
  := Nat.max_eq_right later

theorem Counts.sharp {clock : Clock} {Comes Holds : Nat → Prop}
    (counts : clock.Counts Comes Holds) :
  clock.sharpened.Sharp Comes
  where
    horizon := fun _ => rfl
    le_after := fun _ _ => Nat.le_max_left _ _
    zero := counts.zero
    sleeps := by
      intro tick tick' comes comes' later
      have ends := counts.sleeps tick tick' comes comes' later
      rw [← ends] at later
      exact (sharpened_after later).trans ends

theorem Counts.apart {clock : Clock} {Comes Holds : Nat → Prop}
    (counts : clock.Counts Comes Holds) :
  clock.Tells Holds
  := by
  intro tick tick' held held'
  apply counts.tells 0 counts.zero tick tick' (.inl held) (.inl held')

theorem counts_exact :
  exact.Counts (fun _ => True) fun _ => True
  where
    zero := trivial
    holds := fun _ _ => trivial
    sleeps := fun _ _ _ _ le => Nat.add_sub_cancel' le
    tells := fun _ _ _ _ _ _ less => less

end Clock

/-! ### The binary64 clock -/

/-- The time is a multiple of a power of two, and has few significant bits. -/
def Grid (place tick : Nat) : Prop := ∃ n, n ≤ 2 ^ 53 ∧ tick = n * 2 ^ place

theorem significant_of_grid {place tick : Nat} (grid : Grid place tick) :
  Significant tick
  := by
  obtain ⟨n, few, rfl⟩ := grid
  refine ⟨n, place, ?_, (Nat.shiftLeft_eq n place).symm⟩
  rw [Nat.one_shiftLeft]
  apply few

theorem one_shiftLeft_le {place place' : Nat} (le : place ≤ place') :
  1 <<< place ≤ 1 <<< place'
  := by
  rw [Nat.one_shiftLeft, Nat.one_shiftLeft]
  apply Nat.pow_le_pow_right Nat.two_pos le

theorem Clock.resolution_le {place : Nat} (fine : 1045 ≤ place) :
  resolution ≤ 2 ^ place
  := by
  have small : resolution ≤ 1 <<< 1045 := by decide +kernel
  rw [← Nat.one_shiftLeft]
  apply Nat.le_trans small
  apply one_shiftLeft_le fine

/-- The binary64 clock tells times apart that differ by its resolution or more, and sleeps are exact
between multiples of a power of two. -/
theorem Clock.counts_binary64 {place : Nat} {Comes Holds : Nat → Prop} (zero : Comes 0)
    (holds : ∀ tick, Comes tick → Holds tick) (grid : ∀ tick, Comes tick → Grid place tick)
    (significant : ∀ tick, Holds tick → Significant tick)
    (bounded : ∀ tick, Holds tick → tick + resolution ≤ unitsLimit)
    (resolved : ∀ tick tick', Holds tick → Holds tick' → tick < tick' →
      tick + resolution ≤ tick') :
  binary64.Counts Comes Holds
  where
    zero := zero
    holds := holds
    sleeps := by
      intro tick tick' comes comes' le
      have between : Grid place (tick' - tick) := by
        obtain ⟨n, -, rfl⟩ := grid tick comes
        obtain ⟨n', few, rfl⟩ := grid tick' comes'
        refine ⟨n' - n, Nat.le_trans (Nat.sub_le _ _) few, ?_⟩
        rw [Nat.sub_mul]
      simp only [binary64]
      rw [roundUnits_of_significant (significant_of_grid between), Nat.add_sub_cancel' le,
        roundUnits_of_significant (significant_of_grid (grid tick' comes'))]
    tells := by
      intro last _ tick tick' held held' less
      obtain held | rfl := held <;> obtain held' | rfl := held'
      · apply roundUnits_le_of_le (significant tick' held')
        apply resolved tick tick' held held' less
      · have long : Significant unitsLimit := ⟨1, 2098, by decide, rfl⟩
        apply Nat.le_trans (roundUnits_le_of_le long (bounded tick held)) (Nat.le_add_left _ _)
      · have := bounded tick' held'
        omega
      · apply absurd less (Nat.lt_irrefl _)

/-- The binary64 clock counts the multiples of a power of two that is not below its resolution. -/
theorem Clock.counts_grid {place : Nat} (fine : 1045 ≤ place) (small : place + 53 < 2098) :
  binary64.Counts (Grid place) (Grid place)
  := by
  have resolves := resolution_le fine
  have limit : 2 ^ 53 * 2 ^ place + 2 ^ place ≤ unitsLimit := by
    have double : 2 ^ place ≤ 2 ^ 53 * 2 ^ place := Nat.le_mul_of_pos_left _ (by decide)
    have twice : 2 ^ 53 * 2 ^ place + 2 ^ 53 * 2 ^ place = 2 ^ (place + 53 + 1) := by
      rw [Nat.pow_add 2 (place + 53) 1, Nat.pow_one, Nat.pow_add, Nat.mul_comm (2 ^ place),
        Nat.mul_two]
    apply Nat.le_trans (Nat.add_le_add_left double _)
    rw [twice, ← Nat.one_shiftLeft]
    apply one_shiftLeft_le small
  apply counts_binary64 ⟨0, Nat.zero_le _, (Nat.zero_mul _).symm⟩ (fun _ grid => grid)
    (fun _ grid => grid) (fun _ => significant_of_grid)
  · rintro _ ⟨n, few, rfl⟩
    apply Nat.le_trans _ limit
    apply Nat.add_le_add (Nat.mul_le_mul_right _ few) resolves
  · -- The next multiple is farther away than the clock looks ahead.
    rintro _ _ ⟨n, -, rfl⟩ ⟨n', -, rfl⟩ less
    have next : n + 1 ≤ n' := Nat.lt_of_mul_lt_mul_right less
    apply Nat.le_trans (Nat.add_le_add_left resolves _)
    rw [← Nat.succ_mul]
    apply Nat.mul_le_mul_right _ next

namespace Coalescer

variable {σ α ρ : Type}

/-- The coalescer with the sharpened clock. -/
def sharpened (c : Coalescer α ρ) : Coalescer α ρ := { c with clock := c.clock.sharpened }

/-- The times that come of a request are some of those that the clock tells apart: the time at which
it comes itself, at which the window of a submit closes, and at which a call ends then. -/
structure Timed.Counted (c : Coalescer α ρ) (Comes Holds : Nat → Prop) (r : Timed σ α) : Prop where
  comes : Comes r.time
  closes : ∀ k args, r.request = .submit k args →
    r.time ≤ c.clock.after r.time c.wait ∧ Holds (c.clock.after r.time c.wait)
  ends : ∀ k args closes, r.request = .submit k args → closes = c.clock.after r.time c.wait →
    closes ≤ c.clock.after closes (c.duration args)
      ∧ Holds (c.clock.after closes (c.duration args))

/-- Multiples of a power of two lead to others as long as they are small. -/
theorem counted_binary64 {c : Coalescer α ρ} (clock : c.clock = .binary64) {place wait : Nat}
    (waits : c.wait = wait * 2 ^ place) {r : Timed σ α} {time : Nat}
    (comes : r.time = time * 2 ^ place)
    (small : time ≤ 2 ^ 53)
    (lasts : ∀ k args, r.request = .submit k args → ∃ duration,
      c.duration args = duration * 2 ^ place ∧ time + wait + duration ≤ 2 ^ 53) :
  r.Counted c (Grid place) (Grid place)
  := by
  have adds {tick span : Nat} (grid : Grid place (tick + span)) :
      c.clock.after tick span = tick + span := by
    rw [clock]
    apply roundUnits_of_significant (significant_of_grid grid)
  have closing {k : σ} {args : α} (submits : r.request = .submit k args) :
      Grid place (r.time + c.wait) := by
    obtain ⟨duration, -, few⟩ := lasts k args submits
    refine ⟨time + wait, Nat.le_trans (Nat.le_add_right _ _) few, ?_⟩
    rw [comes, waits, Nat.add_mul]
  have ending {k : σ} {args : α} (submits : r.request = .submit k args) :
      Grid place (r.time + c.wait + c.duration args) := by
    obtain ⟨duration, lasts, few⟩ := lasts k args submits
    refine ⟨time + wait + duration, few, ?_⟩
    rw [comes, waits, lasts, Nat.add_mul, Nat.add_mul]
  exact {
    comes := ⟨time, small, comes⟩
    closes := by
      intro k args submits
      rw [adds (closing submits)]
      exact ⟨Nat.le_add_right _ _, closing submits⟩
    ends := by
      rintro k args _ submits rfl
      rw [adds (closing submits), adds (ending submits)]
      exact ⟨Nat.le_add_right _ _, ending submits⟩ }

/-! ### What is due -/

theorem takeDue_congr {δ : Type} {now limit limit' : Nat} (fuel : Nat) {agenda : Agenda δ}
    (same : ∀ a ∈ agenda.members, a.due ≤ now ∨ a.due < limit ↔ a.due ≤ now ∨ a.due < limit') :
  Agenda.takeDue now limit fuel agenda = Agenda.takeDue now limit' fuel agenda
  := by
  induction fuel generalizing agenda with
  | zero => rfl
  | succ fuel ih =>
    simp only [Agenda.takeDue]
    split
    · rfl
    · rename_i next first
      have perm := Agenda.members_dropNext first
      have rest := ih fun a mem => same a (perm.mem_iff.mpr (List.mem_cons_of_mem next mem))
      have top := same next (perm.mem_iff.mpr List.mem_cons_self)
      simp only [rest, top]

variable {c : Coalescer α ρ} {Comes Holds : Nat → Prop} {s : State σ α ρ}

/-- A clock that tells all times apart takes nothing for due that is not. -/
theorem jump_sharpened
    (tells : c.clock.Tells Holds) (held : Moment.Held Holds { state := s, due := [] }) :
  c.jump s = c.sharpened.jump s
  := by
  have jumped := (held_jump (c := c.sharpened) held).now
  rw [jump, jump] at *
  split
  · rfl
  · rename_i a first
    rw [first] at jumped
    simp only at jumped
    have same : Agenda.takeDue (max s.now a.due) (c.clock.horizon (max s.now a.due)) s.agenda.size
          s.agenda
        = Agenda.takeDue (max s.now a.due) (c.sharpened.clock.horizon (max s.now a.due))
          s.agenda.size s.agenda := by
      apply takeDue_congr
      intro b mem
      have due : Holds b.due := by
        apply held.due b
        rw [Moment.scheduled, List.append_nil]
        apply mem
      have := tells _ _ jumped due
      change _ ↔ b.due ≤ max s.now a.due ∨ b.due < max s.now a.due + 1
      omega
    simp only [same]

variable [BEq σ]

theorem close_sharpened {k : σ} (later : ∀ args, (s.slot k).args = some args →
      s.now ≤ c.clock.after s.now (c.duration args)) :
  c.close s k = c.sharpened.close s k
  := by
  rw [close, close]
  split
  · rename_i waiters args _ given
    simp only [sharpened, Clock.sharpened_after (later args given)]
    rfl
  · rfl

theorem apply_sharpened {q : Request σ α}
    (counted : Timed.Counted c Comes Holds { time := s.now, request := q })
    (sound : Moment.Sound { state := s, due := [] })
    (held : Moment.Held Holds { state := s, due := [] }) :
  c.apply s q = c.sharpened.apply s q
    ∧ Moment.Held Holds { state := c.sharpened.apply s q, due := [] }
  := by
  constructor
  · cases q with
    | submit k args =>
      have adds := Clock.sharpened_after (counted.closes k args rfl).1
      rw [← s.now_pass] at adds
      rw [apply, apply, submit, submit, sharpened, adds]
    | _ => rfl
  · apply held_ask held sound
    intro k args submits
    obtain ⟨later, holds⟩ := counted.closes k args submits
    rw [sharpened, Clock.sharpened_after later]
    apply holds

variable [EquivBEq σ] {log : List (Act σ α ρ)}

/-- A window closes one wait after a submit, and its call ends at a time that is told apart as
well. -/
theorem ends_of_counted (sharp : c.clock.sharpened.Sharp Comes)
    (counted : ∀ act ∈ log, act.numbered.2.Counted c Comes Holds)
    {a : Appointment (Deed σ)} {due : List (Appointment (Deed σ))}
    (reached : Reached c.sharpened log { state := s, due := a :: due }) {k : σ}
    (deed : a.deed = .close k) (live : s.isStale a = false) {args : α}
    (given : (s.slot k).args = some args) :
  s.now ≤ c.clock.after s.now (c.duration args) ∧ Holds (c.clock.after s.now (c.duration args))
  := by
  obtain ⟨p, stands, is⟩ := phase_of_reached reached k
  have timer : a ∈ Moment.timers { state := s, due := a :: due } k := by
    simp [Moment.timers, Moment.scheduled, closes, deed, live]
  cases stands with
  | idle _ none =>
    rw [none] at timer
    cases timer
  | @waiting b waiters args' slot one =>
    rw [one, List.mem_singleton] at timer
    rw [slot_of_get? slot, Option.some.injEq] at given
    subst given
    obtain ⟨act, ⟨older, newer, split, -⟩, ⟨k', request, -, -⟩, closing, -⟩ := is
    have time : s.now = b.due := by
      rw [← timer]
      apply punctual_of_reached sharp reached List.mem_cons_self
      rw [wakes, deed]
    have submitted := counted act (by simp [split])
    have began : s.now = c.clock.after act.numbered.2.time c.wait := by
      rw [time, closing]
      apply Clock.sharpened_after (submitted.closes k' args' request).1
    apply submitted.ends k' args' s.now request began
  | calling _ none =>
    rw [none] at timer
    cases timer

theorem perform_sharpened (sharp : c.clock.sharpened.Sharp Comes)
    (counted : ∀ act ∈ log, act.numbered.2.Counted c Comes Holds)
    {a : Appointment (Deed σ)} {due : List (Appointment (Deed σ))}
    (reached : Reached c.sharpened log { state := s, due := a :: due })
    (held : Moment.Held Holds { state := s, due := a :: due }) :
  c.perform s a = c.sharpened.perform s a
    ∧ Moment.Held Holds { state := c.sharpened.perform s a, due := due }
  := by
  have ends {k : σ} {args : α} (deed : a.deed = .close k) (live : s.isStale a = false)
      (given : (s.slot k).args = some args) :=
    ends_of_counted sharp counted reached deed live given
  constructor
  · rw [perform, perform]
    split
    · rfl
    · rename_i live
      rw [Bool.not_eq_true] at live
      cases deed : a.deed with
      | close k => exact close_sharpened fun args given => (ends deed live given).1
      | _ => rfl
  · obtain ⟨now, same | ⟨k, args, deed, live, given, more⟩⟩ := perform_frame c.sharpened s a
    · apply held_of_agenda (held_tail held) same now
    · obtain ⟨later, holds⟩ := ends deed live given
      rw [← Clock.sharpened_after later] at holds
      apply held_of_agenda (held_appoint (held_tail held) (.finish k) holds) more now

/-! ### Turns -/

theorem foldl_sharpened (sharp : c.clock.sharpened.Sharp Comes)
    {due : List (Appointment (Deed σ))}
    (counted : ∀ act ∈ log, act.numbered.2.Counted c Comes Holds)
    (reached : Reached c.sharpened log { state := s, due := due })
    (held : Moment.Held Holds { state := s, due := due }) :
  due.foldl c.perform s = due.foldl c.sharpened.perform s
    ∧ Moment.Held Holds { state := due.foldl c.sharpened.perform s, due := [] }
  := by
  induction due generalizing s with
  | nil => exact ⟨rfl, held⟩
  | cons a rest ih =>
    obtain ⟨performed, after⟩ := perform_sharpened sharp counted reached held
    rw [List.foldl_cons, List.foldl_cons, performed]
    apply ih reached.perform after

theorem turn_sharpened (sharp : c.clock.sharpened.Sharp Comes)
    (tells : c.clock.Tells Holds)
    (counted : ∀ act ∈ log, act.numbered.2.Counted c Comes Holds)
    (reached : Reached c.sharpened log { state := s, due := [] })
    (held : Moment.Held Holds { state := s, due := [] }) :
  c.turn s = c.sharpened.turn s ∧ Moment.Held Holds { state := (c.sharpened.turn s).1, due := [] }
  := by
  have sound := sound_of_reached reached
  have tidied := held_tidy held sound
  have jumped := held_pass (held_jump (c := c.sharpened) tidied)
    (sound_jump c.sharpened (sound_tidy sound))
  obtain ⟨folded, after⟩ := foldl_sharpened sharp counted reached.jump jumped
  rw [turn, turn, jump_sharpened tells tidied]
  simp only
  rw [folded]
  exact ⟨rfl, after⟩

theorem turnsUntilAwake_sharpened (sharp : c.clock.sharpened.Sharp Comes)
    (tells : c.clock.Tells Holds)
    (counted : ∀ act ∈ log, act.numbered.2.Counted c Comes Holds) (fuel : Nat)
    (reached : Reached c.sharpened log { state := s, due := [] })
    (held : Moment.Held Holds { state := s, due := [] }) :
  c.turnsUntilAwake fuel s = c.sharpened.turnsUntilAwake fuel s
    ∧ Moment.Held Holds { state := c.sharpened.turnsUntilAwake fuel s, due := [] }
  := by
  induction fuel generalizing s with
  | zero => exact ⟨rfl, held⟩
  | succ fuel ih =>
    obtain ⟨turned, after⟩ := turn_sharpened sharp tells counted reached held
    simp only [turnsUntilAwake, turned]
    split
    · exact ⟨rfl, after⟩
    · apply ih (reached_turn reached) after

theorem turnsToTheEnd_sharpened (sharp : c.clock.sharpened.Sharp Comes)
    (tells : c.clock.Tells Holds)
    (counted : ∀ act ∈ log, act.numbered.2.Counted c Comes Holds) (fuel : Nat)
    (reached : Reached c.sharpened log { state := s, due := [] })
    (held : Moment.Held Holds { state := s, due := [] }) :
  c.turnsToTheEnd fuel s = c.sharpened.turnsToTheEnd fuel s
  := by
  induction fuel generalizing s with
  | zero => rfl
  | succ fuel ih =>
    obtain ⟨turned, after⟩ := turn_sharpened sharp tells counted reached held
    simp only [turnsToTheEnd, turned]
    split
    · rfl
    · apply ih (reached_turn reached) after

/-! ### Runs -/

theorem sleepUntil_sharpened (counts : c.clock.Counts Comes Holds)
    (counted : ∀ act ∈ log, act.numbered.2.Counted c Comes Holds) {time : Nat}
    (comes : Comes time) (now : Comes s.now)
    (reached : Reached c.sharpened log { state := s, due := [] })
    (held : Moment.Held Holds { state := s, due := [] }) :
  c.sleepUntil time s = c.sharpened.sleepUntil time s
    ∧ Moment.Held Holds { state := c.sharpened.sleepUntil time s, due := [] }
  := by
  rw [sleepUntil, sleepUntil]
  split
  · exact ⟨rfl, held⟩
  · rename_i ahead
    have later := Nat.le_of_not_le ahead
    have sharp := counts.sharp
    have wakes_at : c.sharpened.clock.after s.now (c.sharpened.clock.between s.now time) = time :=
      sharp.sleeps s.now time now comes later
    rw [counts.sleeps s.now time now comes later, wakes_at]
    apply turnsUntilAwake_sharpened sharp counts.apart counted _ (reached.sleep time)
    apply held_appoint held _ (counts.holds time comes)

/-- What is asked for and answered is the same with the sharpened clock. -/
theorem acts_sharpened (counts : c.clock.Counts Comes Holds) {requests : List (Timed σ α)}
    (counted : ∀ r ∈ requests, r.Counted c Comes Holds)
    (logged : ∀ act ∈ log, act.numbered.2.Counted c Comes Holds) (comes : Comes s.now)
    (reached : Reached c.sharpened log { state := s, due := [] })
    (rested : Rested c.sharpened.clock s) (later : ∀ r ∈ requests, s.now ≤ r.time)
    (sorted : requests.Pairwise fun r r' => r.time ≤ r'.time)
    (held : Moment.Held Holds { state := s, due := [] }) :
  c.acts s requests = c.sharpened.acts s requests
    ∧ c.run s requests = c.sharpened.run s requests
    ∧ Comes (c.sharpened.run s requests).1.now
    ∧ Moment.Held Holds { state := (c.sharpened.run s requests).1, due := [] }
    ∧ ∀ act ∈ c.sharpened.acts s requests, act.numbered.2.Counted c Comes Holds
  := by
  induction requests generalizing log s with
  | nil => exact ⟨rfl, rfl, comes, held, nofun⟩
  | cons r rest ih =>
    rw [List.forall_mem_cons] at counted later
    rw [List.pairwise_cons] at sorted
    have coming := counted.1.comes
    have sharp : c.sharpened.clock.Sharp Comes := counts.sharp
    have reached' := reached_sleepUntil r.time reached
    obtain ⟨slept, awake⟩ := sleepUntil_sharpened counts logged coming comes reached held
    obtain ⟨now, rested'⟩ := now_sleepUntil sharp coming comes reached rested later.1
    have sound := sound_of_reached reached'
    have counted' : Timed.Counted c Comes Holds
        { time := (c.sharpened.sleepUntil r.time s).now, request := r.request } := by
      rw [now]
      apply counted.1
    obtain ⟨applied, asked⟩ := apply_sharpened counted' sound awake
    have now' := (apply_frame c.sharpened (c.sharpened.sleepUntil r.time s) r.request).1.trans now
    obtain ⟨acts, run, last, after, all⟩ := ih counted.2
      (by
        rw [List.forall_mem_append, List.forall_mem_singleton]
        exact ⟨logged, counted'⟩)
      (by
        rw [now']
        apply coming)
      (reached'.ask r.request) (rested_apply sharp sound rested' r.request)
      (by
        intro r' mem
        rw [now']
        apply sorted.1 r' mem)
      sorted.2 asked
    refine ⟨?_, ?_, last, after, ?_⟩
    · rw [Coalescer.acts, Coalescer.acts, slept, applied, acts]
    · rw [Coalescer.run, Coalescer.run, slept, applied]
      simp only [run]
    · rw [Coalescer.acts, List.forall_mem_cons]
      exact ⟨counted', all⟩

/-- Everything that is left to happen happens as with the sharpened clock. -/
theorem drain_sharpened (counts : c.clock.Counts Comes Holds)
    (counted : ∀ act ∈ log, act.numbered.2.Counted c Comes Holds) (comes : Comes s.now)
    (reached : Reached c.sharpened log { state := s, due := [] })
    (held : Moment.Held Holds { state := s, due := [] }) :
  c.drain s = c.sharpened.drain s
  := by
  -- Someone sleeps for long: that is one more time to be told apart.
  let WithLong (due : Nat) : Prop := Holds due ∨ due = s.now + unitsLimit
  have counted' : ∀ act ∈ log, act.numbered.2.Counted c Comes WithLong := by
    intro act mem
    obtain ⟨comes, closes, ends⟩ := counted act mem
    exact {
      comes := comes
      closes := fun k args submits => (closes k args submits).imp_right .inl
      ends := fun k args time submits closed => (ends k args time submits closed).imp_right .inl }
  have held' : Moment.Held WithLong { state := s, due := [] } := {
    now := .inl held.now
    due := fun a mem => .inl (held.due a mem) }
  apply turnsToTheEnd_sharpened counts.sharp (counts.tells s.now comes) counted' _ (reached.sleep _)
  exact held_appoint held' _ (.inr rfl)

/-- A run whose times the clock tells apart is the run with the sharpened clock. -/
theorem runOut_sharpened (counts : c.clock.Counts Comes Holds) {requests : List (Timed σ α)}
    (counted : ∀ r ∈ requests, r.Counted c Comes Holds)
    (sorted : requests.Pairwise fun r r' => r.time ≤ r'.time) :
  c.acts .start requests = c.sharpened.acts .start requests
    ∧ c.runOut requests = c.sharpened.runOut requests
  := by
  have held : Moment.Held Holds { state := (.start : State σ α ρ), due := [] } := {
    now := counts.holds 0 counts.zero
    due := nofun }
  have none : ∀ act ∈ ([] : List (Act σ α ρ)), act.numbered.2.Counted c Comes Holds := nofun
  obtain ⟨acts, run, last, after, all⟩ := acts_sharpened counts counted none counts.zero .start
    (rested_start _) (fun _ _ => Nat.zero_le _) sorted held
  use acts
  rw [runOut, runOut, run]
  simp only
  rw [drain_sharpened counts all last (reached_run requests .start) after]

end Coalescer

end ReflexPolicy
