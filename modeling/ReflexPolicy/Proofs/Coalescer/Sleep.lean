import ReflexPolicy.Proofs.Coalescer.Draining
import ReflexPolicy.Proofs.Coalescer.Endings
import ReflexPolicy.Proofs.Coalescer.Time

/-!
# Requests come at their times

Whoever makes a request sleeps until its time has come.  With a sharp clock the sleep ends at that
very time: the clock jumps from one appointment to the next and passes none of them, and to wake up
is an appointment as well.  `numbered_run` says so for all requests of a run.
-/

namespace ReflexPolicy

/-- The clock takes nothing for due before its time and counts no time from a later one, and a sleep
from one of certain times to another ends there. -/
structure Clock.Sharp (clock : Clock) (Comes : Nat → Prop) : Prop where
  horizon : ∀ tick, clock.horizon tick = tick + 1
  le_after : ∀ tick span, tick ≤ clock.after tick span
  zero : Comes 0
  sleeps : ∀ tick tick', Comes tick → Comes tick' → tick ≤ tick' →
    clock.after tick (clock.between tick tick') = tick'

theorem Clock.Sharp.near {clock : Clock} {Comes : Nat → Prop} (sharp : clock.Sharp Comes)
    {now due : Nat} :
  clock.Near now due ↔ now = due
  := by
  rw [Near, Past, sharp.horizon]
  omega

namespace Coalescer

variable {σ α ρ : Type}

/-- The appointments at which someone wakes up. -/
def Moment.sleepers (m : Moment σ α ρ) : List (Appointment (Deed σ)) := m.scheduled.filter wakes

/-- All appointments are still to come, and nobody sleeps. -/
structure Rested (clock : Clock) (s : State σ α ρ) : Prop where
  timely : Moment.Timely clock (fun _ => true) { state := s, due := [] }
  nobody : ∀ a ∈ s.agenda.members, wakes a = false

theorem rested_start (clock : Clock) :
  Rested clock (State.start : State σ α ρ)
  where
    timely := {
      ordered := trivial
      later := by
        intro a mem
        cases mem
      near := by
        intro a mem
        cases mem }
    nobody := by
      intro a mem
      cases mem

theorem sleepers_of_perm {m m' : Moment σ α ρ} (gone come : List (Appointment (Deed σ)))
    (perm : (gone ++ m'.scheduled).Perm (come ++ m.scheduled))
    (left : ∀ a ∈ gone, wakes a = false) (new : ∀ a ∈ come, wakes a = false) :
  m'.sleepers.Perm m.sleepers
  := by
  have none {others : List (Appointment (Deed σ))} (all : ∀ a ∈ others, wakes a = false) :
      others.filter wakes = [] := by
    rw [List.filter_eq_nil_iff]
    intro a mem
    rw [all a mem]
    apply Bool.false_ne_true
  have filtered := perm.filter wakes
  rw [List.filter_append, List.filter_append, none left, none new] at filtered
  apply filtered

theorem sleepers_due (s : State σ α ρ) (due : List (Appointment (Deed σ))) :
  Moment.sleepers { state := s, due := due }
    = Moment.sleepers { state := s, due := [] } ++ due.filter wakes
  := by simp [Moment.sleepers, Moment.scheduled]

theorem sleepers_jump (c : Coalescer α ρ) (s : State σ α ρ) :
  (Moment.sleepers { state := (c.jump s).1, due := (c.jump s).2 }).Perm
    (Moment.sleepers { state := s, due := [] })
  := by
  obtain ⟨-, -, -, -, perm⟩ := jump_frame c s
  apply sleepers_of_perm [] []
  · rw [Moment.scheduled, Moment.scheduled, List.append_nil]
    apply perm.symm
  · simp
  · simp

/-- Someone goes to sleep when nobody else does. -/
theorem sleepers_of_rested {clock : Clock} {s : State σ α ρ} (rested : Rested clock s)
    (time : Nat) :
  Moment.sleepers { state := s.appoint time .wake, due := [] }
    = [{ due := time, number := s.agenda.made, deed := .wake }]
  := by
  have nobody : s.agenda.members.filter wakes = [] := by
    rw [List.filter_eq_nil_iff]
    intro a mem
    rw [rested.nobody a mem]
    apply Bool.false_ne_true
  have members := (Agenda.members_add s.agenda time (.wake : Deed σ)).filter wakes
  rw [List.filter_cons_of_pos rfl, nobody, List.perm_singleton] at members
  rw [Moment.sleepers, Moment.scheduled, List.append_nil]
  apply members

theorem next?_of_asleep {s : State σ α ρ} {w : Appointment (Deed σ)}
    (asleep : Moment.sleepers { state := s, due := [] } = [w]) :
  s.agenda.next? ≠ none
  := by
  intro none
  rw [Moment.sleepers, Moment.scheduled, members_of_next? none] at asleep
  cases asleep

/-- Requests, each with the number of the submits before it. -/
def numbered (number : Nat) : List (Timed σ α) → List (Nat × Timed σ α)
  | [] => []
  | r :: rest => (number, r) :: numbered (number + r.request.submits.toNat) rest

theorem map_numbered (number : Nat) (requests : List (Timed σ α)) :
  (numbered number requests).map (·.2) = requests
  := by
  induction requests generalizing number with
  | nil => rfl
  | cons r rest ih => rw [numbered, List.map_cons, ih]

variable [BEq σ] {c : Coalescer α ρ} {m : Moment σ α ρ}

theorem wakes_of_isStale {s : State σ α ρ} {a : Appointment (Deed σ)}
    (stale : s.isStale a = true) :
  wakes a = false
  := by
  rw [State.isStale] at stale
  rw [wakes]
  cases deed : a.deed with
  | close k => rfl
  | finish k => rfl
  | wake =>
    rw [deed] at stale
    cases stale

theorem sleepers_of_trims {m' : Moment σ α ρ} (sound : m.Sound)
    (trims : m.state.Trims m'.state.agenda) (due : m'.due = m.due) :
  m'.sleepers.Perm m.sleepers
  := by
  obtain ⟨gone, perm, stale⟩ := trims.members sound.filled
  apply sleepers_of_perm gone []
  · rw [Moment.scheduled, Moment.scheduled, due, ← List.append_assoc]
    apply (perm.append_right m.due).symm
  · intro a mem
    apply wakes_of_isStale (stale a mem)
  · simp

theorem sleepers_tidy (sound : m.Sound) :
  (Moment.sleepers { m with state := m.state.tidy }).Perm m.sleepers
  := sleepers_of_trims sound m.state.trims_tidy rfl

theorem sleepers_pass (sound : m.Sound) :
  (Moment.sleepers { m with state := m.state.pass }).Perm m.sleepers
  := sleepers_of_trims sound m.state.trims_pass rfl

/-- What is done lets nobody fall asleep. -/
theorem sleepers_perform (c : Coalescer α ρ) (s : State σ α ρ) (a : Appointment (Deed σ)) :
  (Moment.sleepers { state := c.perform s a, due := [] }).Perm
    (Moment.sleepers { state := s, due := [] })
  := by
  obtain ⟨-, same | ⟨k, args, -, -, -, more⟩⟩ := perform_frame c s a
  · rw [Moment.sleepers, Moment.scheduled, same]
    apply List.Perm.refl
  · let finishing : Appointment (Deed σ) :=
      { due := c.clock.after s.now (c.duration args), number := s.agenda.made, deed := .finish k }
    apply sleepers_of_perm [] [finishing]
    · rw [Moment.scheduled, more]
      apply (Agenda.members_add s.agenda finishing.due finishing.deed).append_right
    · simp
    · rw [List.forall_mem_singleton]
      rfl

/-! ### Turns -/

variable {log : List (Act σ α ρ)} {s : State σ α ρ} {minded : Appointment (Deed σ) → Bool}
  {Comes : Nat → Prop}

theorem sleepers_foldl (due : List (Appointment (Deed σ))) (s : State σ α ρ) :
  (Moment.sleepers { state := due.foldl c.perform s, due := [] }).Perm
    (Moment.sleepers { state := s, due := [] })
  := by
  induction due generalizing s with
  | nil => apply List.Perm.refl
  | cons a rest ih => apply (ih (c.perform s a)).trans (sleepers_perform c s a)

/-- Nobody who sleeps is forgotten in a turn. -/
theorem sleepers_turn (sound : Moment.Sound { state := s, due := [] }) :
  (Moment.sleepers { state := (c.turn s).1, due := [] }
      ++ (c.jump s.tidy).2.filter wakes).Perm
    (Moment.sleepers { state := s, due := [] })
  := by
  have tidied := sound_tidy sound
  have passed := sleepers_pass (sound_jump c tidied)
  rw [sleepers_due] at passed
  rw [turn_eq]
  apply ((sleepers_foldl _ _).append_right _).trans
  apply passed.trans
  apply (sleepers_jump c s.tidy).trans
  apply sleepers_tidy sound

/-- Everything is done at the time for which it was appointed. -/
theorem timely_of_sharp (sharp : c.clock.Sharp Comes) (reached : Reached c log m) :
  m.Timely c.clock fun a => !wakes a
  := by
  apply timely_of_forward reached
  · intro due number
    rfl
  · exact fun act _ => sharp.le_after act.before.state.now c.wait
  · exact fun tick span _ _ _ => sharp.le_after tick span

/-- What is due was appointed for now. -/
theorem punctual_of_reached (sharp : c.clock.Sharp Comes) (reached : Reached c log m)
    {a : Appointment (Deed σ)} (mem : a ∈ m.due) (asleep : wakes a = false) :
  m.state.now = a.due
  := by
  apply sharp.near.mp
  apply (timely_of_sharp sharp reached).near a mem
  rw [asleep]
  rfl

/-- What is scheduled is still to come. -/
theorem le_due_of_reached (sharp : c.clock.Sharp Comes) (reached : Reached c log m)
    {a : Appointment (Deed σ)} (mem : a ∈ m.scheduled) (asleep : wakes a = false) :
  m.state.now ≤ a.due
  := by
  rw [Moment.scheduled, List.mem_append] at mem
  obtain mem | mem := mem
  · apply (timely_of_sharp sharp reached).later a mem
    rw [asleep]
    rfl
  · apply Nat.le_of_eq (punctual_of_reached sharp reached mem asleep)

theorem timely_foldl (sharp : c.clock.Sharp Comes) {due : List (Appointment (Deed σ))}
    (timely : Moment.Timely c.clock minded { state := s, due := due }) :
  Moment.Timely c.clock minded { state := due.foldl c.perform s, due := [] }
    ∧ (due.foldl c.perform s).now = s.now
  := by
  induction due generalizing s with
  | nil => exact ⟨timely, rfl⟩
  | cons a rest ih =>
    have performed : Moment.Timely c.clock minded { state := c.perform s a, due := rest } := by
      apply timely_perform timely
      intro span _ _ _
      apply sharp.le_after
    obtain ⟨all, now⟩ := ih performed
    use all
    apply now.trans (perform_frame c s a).1

/-- What is due in a turn was appointed for the time at which it is done. -/
theorem timely_turn (sharp : c.clock.Sharp Comes)
    (sound : Moment.Sound { state := s, due := [] })
    (timely : Moment.Timely c.clock minded { state := s, due := [] }) :
  Moment.Timely c.clock minded { state := (c.turn s).1, due := [] }
    ∧ ∀ a ∈ (c.jump s.tidy).2, minded a = true → (c.turn s).1.now = a.due
  := by
  have tidied := sound_tidy sound
  have calm : Moment.Timely c.clock minded { state := s.tidy, due := [] } := by
    apply timely_tidy timely sound
  have passed := timely_pass (timely_jump calm).1 (sound_jump c tidied)
  obtain ⟨all, now⟩ := timely_foldl sharp passed
  rw [turn_eq]
  use all
  intro a mem minds
  rw [now]
  apply sharp.near.mp (passed.near a mem minds)

/-- The one who sleeps wakes up in a turn, at the time of the appointment, or sleeps on. -/
theorem awake_turn (sharp : c.clock.Sharp Comes) {w : Appointment (Deed σ)}
    (sound : Moment.Sound { state := s, due := [] })
    (timely : Moment.Timely c.clock (fun _ => true) { state := s, due := [] })
    (asleep : Moment.sleepers { state := s, due := [] } = [w]) :
  if (c.turn s).2 then (c.turn s).1.now = w.due ∧ Rested c.clock (c.turn s).1
    else Moment.sleepers { state := (c.turn s).1, due := [] } = [w]
  := by
  obtain ⟨after, due⟩ := timely_turn sharp sound timely
  have sleepers := sleepers_turn (c := c) sound
  rw [asleep, List.perm_singleton] at sleepers
  split
  · rename_i awake
    obtain ⟨a, mem, wake⟩ := List.any_eq_true.mp awake
    have taken : a ∈ (c.jump s.tidy).2.filter wakes := List.mem_filter.mpr ⟨mem, wake⟩
    obtain ⟨nobody, one⟩ | ⟨-, none⟩ := List.append_eq_singleton_iff.mp sleepers
    · rw [one, List.mem_singleton] at taken
      rw [taken] at mem
      use due w mem rfl, after
      intro b member
      rw [Moment.sleepers, Moment.scheduled, List.append_nil, List.filter_eq_nil_iff] at nobody
      rw [← Bool.not_eq_true]
      apply nobody b member
    · rw [none] at taken
      cases taken
  · rename_i sleeps
    have none : (c.jump s.tidy).2.filter wakes = [] := by
      rw [List.filter_eq_nil_iff]
      intro a mem wake
      apply sleeps
      apply List.any_eq_true.mpr ⟨a, mem, wake⟩
    rw [none, List.append_nil] at sleepers
    apply sleepers

/-- Someone sleeps until an appointment, and so many turns are enough until then. -/
structure Asleep (c : Coalescer α ρ) (log : List (Act σ α ρ)) (w : Appointment (Deed σ))
    (fuel : Nat) (s : State σ α ρ) : Prop where
  reached : Reached c log { state := s, due := [] }
  timely : Moment.Timely c.clock (fun _ => true) { state := s, due := [] }
  sleeper : Moment.sleepers { state := s, due := [] } = [w]
  enough : Moment.load { state := s, due := [] } ≤ fuel

variable {w : Appointment (Deed σ)} {fuel : Nat}

/-- One who falls asleep where nobody sleeps. -/
theorem asleep_of_rested (reached : Reached c log { state := s, due := [] })
    (rested : Rested c.clock s) {time : Nat} (later : s.now ≤ time) :
  Asleep c log { due := time, number := s.agenda.made, deed := .wake }
    (turnsFor (s.appoint time .wake)) (s.appoint time .wake)
  where
    reached := reached.sleep time
    timely := timely_appoint rested.timely fun _ => later
    sleeper := sleepers_of_rested rested time
    enough := load_le_turnsFor _

theorem Asleep.mem (asleep : Asleep c log w fuel s) :
  w ∈ s.agenda.members ∧ wakes w = true
  := by
  have mem : w ∈ Moment.sleepers { state := s, due := [] } := by simp [asleep.sleeper]
  rw [Moment.sleepers, Moment.scheduled, List.append_nil, List.mem_filter] at mem
  apply mem

theorem Asleep.fuel_ne_zero (asleep : Asleep c log w fuel s) :
  fuel ≠ 0
  := by
  rintro rfl
  have sleeper := asleep.sleeper
  rw [Moment.sleepers, scheduled_of_load (Nat.le_zero.mp asleep.enough)] at sleeper
  cases sleeper

/-- Who does not wake up in a turn sleeps on, and one turn less is enough. -/
theorem Asleep.turn (sharp : c.clock.Sharp Comes) (asleep : Asleep c log w (fuel + 1) s) :
  if (c.turn s).2 then (c.turn s).1.now = w.due ∧ Rested c.clock (c.turn s).1
    else Asleep c log w fuel (c.turn s).1
  := by
  have sound := sound_of_reached asleep.reached
  have awake := awake_turn sharp sound asleep.timely asleep.sleeper
  split
  · rename_i wake
    rw [if_pos wake] at awake
    apply awake
  · rename_i sleeps
    rw [if_neg sleeps] at awake
    have less := load_turn (c := c) sound (next?_of_asleep asleep.sleeper)
    exact {
      reached := reached_turn asleep.reached
      timely := (timely_turn sharp sound asleep.timely).1
      sleeper := awake
      enough := Nat.le_of_lt_succ (Nat.lt_of_lt_of_le less asleep.enough) }

theorem Asleep.now_turnsUntilAwake (sharp : c.clock.Sharp Comes)
    (asleep : Asleep c log w fuel s) :
  (c.turnsUntilAwake fuel s).now = w.due ∧ Rested c.clock (c.turnsUntilAwake fuel s)
  := by
  induction fuel generalizing s with
  | zero => exact absurd rfl asleep.fuel_ne_zero
  | succ fuel ih =>
    have turned := asleep.turn sharp
    simp only [turnsUntilAwake]
    split
    · rename_i wake
      rw [if_pos wake] at turned
      apply turned
    · rename_i sleeps
      rw [if_neg sleeps] at turned
      apply ih turned

/-- A sleep ends at the time that it was to last to. -/
theorem now_sleepUntil (sharp : c.clock.Sharp Comes) {time : Nat} (comes : Comes time)
    (now : Comes s.now) (reached : Reached c log { state := s, due := [] })
    (rested : Rested c.clock s) (later : s.now ≤ time) :
  (c.sleepUntil time s).now = time ∧ Rested c.clock (c.sleepUntil time s)
  := by
  rw [sleepUntil]
  split
  · rename_i past
    use Nat.le_antisymm later past, rested.timely
    apply rested.nobody
  · rw [sharp.sleeps s.now time now comes later]
    apply (asleep_of_rested reached rested later).now_turnsUntilAwake sharp

/-! ### Requests -/

/-- With a request nothing is appointed but that a window closes. -/
theorem members_apply (filled : s.agenda.Filled) (q : Request σ α) {a : Appointment (Deed σ)}
    (mem : a ∈ (c.apply s q).agenda.members) :
  a ∈ s.agenda.members ∨ isClosing a = true
  := by
  obtain ⟨s', agenda, -, same, trims, done⟩ := c.apply_agenda s q
  rw [← same] at filled ⊢
  obtain ⟨gone, perm, -⟩ := trims.members filled
  have old {b : Appointment (Deed σ)} (mem : b ∈ agenda.members) : b ∈ s'.agenda.members := by
    apply perm.mem_iff.mpr
    apply List.mem_append_right gone mem
  obtain kept | ⟨k, -, -, added⟩ := done
  · rw [kept] at mem
    exact .inl (old mem)
  · rw [added, (Agenda.members_add _ _ _).mem_iff, List.mem_cons] at mem
    obtain rfl | mem := mem
    · exact .inr rfl
    · exact .inl (old mem)

theorem rested_apply (sharp : c.clock.Sharp Comes)
    (sound : Moment.Sound { state := s, due := [] }) (rested : Rested c.clock s)
    (q : Request σ α) :
  Rested c.clock (c.apply s q)
  where
    timely := timely_ask rested.timely sound (sharp.le_after _ _) q
    nobody := by
      intro a mem
      obtain mem | closing := members_apply sound.filled q mem
      · apply rested.nobody a mem
      · rw [isClosing] at closing
        rw [wakes]
        cases deed : a.deed with
        | close k => rfl
        | finish k => rfl
        | wake =>
          rw [deed] at closing
          cases closing

theorem submits_foldl (due : List (Appointment (Deed σ))) (s : State σ α ρ) :
  (due.foldl c.perform s).submits = s.submits
  := by
  induction due generalizing s with
  | nil => rfl
  | cons a rest ih => rw [List.foldl_cons, ih, submits_perform]

theorem submits_turn (c : Coalescer α ρ) (s : State σ α ρ) :
  (c.turn s).1.submits = s.submits
  := by
  rw [turn_eq, submits_foldl]
  apply (turn_waiters c s).2.1

/-- Nobody submits in a sleep. -/
theorem submits_sleepUntil (c : Coalescer α ρ) (time : Nat) (s : State σ α ρ) :
  (c.sleepUntil time s).submits = s.submits
  := by
  rw [sleepUntil]
  split
  · rfl
  · exact turnsUntilAwake_induction (P := fun s' => s'.submits = s.submits)
      (fun s' same => (submits_turn c s').trans same) _ rfl

theorem submits_drain (c : Coalescer α ρ) (s : State σ α ρ) :
  (c.drain s).submits = s.submits
  := turnsToTheEnd_induction (P := fun s' => s'.submits = s.submits)
    (fun s' same => (submits_turn c s').trans same) _ rfl

/-- The request at the time at which it comes, with the number of the submits before it. -/
def Act.numbered (act : Act σ α ρ) : Nat × Timed σ α :=
  (act.before.state.submits, { time := act.before.state.now, request := act.request })

theorem numbered_acts (sharp : c.clock.Sharp Comes) {requests : List (Timed σ α)}
    (comes : ∀ r ∈ requests, Comes r.time) (now : Comes s.now)
    (reached : Reached c log { state := s, due := [] }) (rested : Rested c.clock s)
    (later : ∀ r ∈ requests, s.now ≤ r.time)
    (sorted : requests.Pairwise fun r r' => r.time ≤ r'.time) :
  (c.acts s requests).map Act.numbered = numbered s.submits requests
  := by
  induction requests generalizing log s with
  | nil => rfl
  | cons r rest ih =>
    rw [List.forall_mem_cons] at comes later
    rw [List.pairwise_cons] at sorted
    have slept := reached_sleepUntil r.time reached
    obtain ⟨awakes, awake⟩ := now_sleepUntil sharp comes.1 now reached rested later.1
    have sound := sound_of_reached slept
    rw [acts, List.map_cons, Act.numbered, numbered, awakes, submits_sleepUntil]
    rw [ih comes.2 _ (slept.ask r.request) (rested_apply sharp sound awake r.request)]
    · rw [submits_apply, submits_sleepUntil]
    · intro r' mem
      rw [(apply_frame c _ r.request).1, awakes]
      apply sorted.1 r' mem
    · apply sorted.2
    · rw [(apply_frame c _ r.request).1, awakes]
      apply comes.1

/-- The requests of a run come at their times, one after another. -/
theorem numbered_run (sharp : c.clock.Sharp Comes) {requests : List (Timed σ α)}
    (comes : ∀ r ∈ requests, Comes r.time)
    (sorted : requests.Pairwise fun r r' => r.time ≤ r'.time) :
  (c.acts .start requests).map Act.numbered = numbered 0 requests
  := by
  apply numbered_acts sharp comes sharp.zero .start (rested_start _) _ sorted
  intro r _
  apply Nat.zero_le

end Coalescer

end ReflexPolicy
