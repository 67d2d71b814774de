import ReflexPolicy.Proofs.Coalescer.Time

/-!
# Ticks that the clock holds

The times of a run are counted from its start: sleeps, waits and calls lead from a tick that the
clock holds to another one.  So no window of a run closes before the submit that lets it wait.
-/

namespace ReflexPolicy.Coalescer

variable {σ α ρ : Type}

/-- The clock holds the time, and all times for which something is appointed. -/
structure Moment.Held (Holds : Nat → Prop) (m : Moment σ α ρ) : Prop where
  now : Holds m.state.now
  due : ∀ a ∈ m.scheduled, Holds a.due

variable {c : Coalescer α ρ} {Holds : Nat → Prop} {m m' : Moment σ α ρ} {s : State σ α ρ}

theorem held_start (forward : c.clock.Forward Holds) :
  Moment.Held Holds { state := (.start : State σ α ρ), due := [] }
  where
    now := forward.zero
    due := by
      intro a mem
      cases mem

theorem held_of_scheduled (held : m.Held Holds) (now : m'.state.now = m.state.now)
    (scheduled : ∀ a ∈ m'.scheduled, a ∈ m.scheduled ∨ Holds a.due) :
  m'.Held Holds
  where
    now := by
      rw [now]
      apply held.now
    due := by
      intro a mem
      obtain old | new := scheduled a mem
      · apply held.due a old
      · apply new

theorem held_of_agenda {s' : State σ α ρ} {due : List (Appointment (Deed σ))}
    (held : Moment.Held Holds { state := s, due := due }) (agenda : s'.agenda = s.agenda)
    (now : s'.now = s.now) :
  Moment.Held Holds { state := s', due := due }
  := by
  apply held_of_scheduled held now
  intro a mem
  rw [Moment.scheduled, agenda] at mem
  exact .inl mem

theorem held_appoint (held : m.Held Holds) {due : Nat} (deed : Deed σ) (holds : Holds due) :
  Moment.Held Holds { m with state := m.state.appoint due deed }
  := by
  apply held_of_scheduled held
  · rfl
  · intro a mem
    rw [(scheduled_appoint m due deed).mem_iff, List.mem_cons] at mem
    obtain rfl | mem := mem
    · exact .inr holds
    · exact .inl mem

theorem held_tail {a : Appointment (Deed σ)} {due : List (Appointment (Deed σ))}
    (held : Moment.Held Holds { state := s, due := a :: due }) :
  Moment.Held Holds { state := s, due := due }
  := by
  apply held_of_scheduled held
  · rfl
  · intro b mem
    left
    apply (scheduled_cons s a due).mem_iff.mpr
    apply List.mem_cons_of_mem a mem

/-- The clock jumps to a time for which something is appointed. -/
theorem held_jump (held : Moment.Held Holds { state := s, due := [] }) :
  Moment.Held Holds { state := (c.jump s).1, due := (c.jump s).2 }
  where
    now := by
      rw [jump]
      split
      · apply held.now
      · rename_i a next
        have due : Holds a.due := by
          apply held.due a
          rw [Moment.scheduled, List.append_nil]
          apply (Agenda.members_dropNext next).mem_iff.mpr
          apply List.mem_cons_self
        simp only
        obtain le | le := Nat.le_total s.now a.due
        · rw [Nat.max_eq_right le]
          apply due
        · rw [Nat.max_eq_left le]
          apply held.now
    due := by
      intro a mem
      obtain ⟨-, -, -, -, perm⟩ := jump_frame c s
      apply held.due a
      rw [Moment.scheduled, List.append_nil]
      apply perm.mem_iff.mpr mem

variable [BEq σ]

theorem held_of_trims (held : m.Held Holds) (sound : m.Sound)
    (trims : m.state.Trims m'.state.agenda) (now : m'.state.now = m.state.now)
    (due : m'.due = m.due) :
  m'.Held Holds
  := by
  obtain ⟨gone, perm, -⟩ := trims.members sound.filled
  apply held_of_scheduled held now
  intro a mem
  left
  rw [Moment.scheduled, due, List.mem_append] at mem
  rw [Moment.scheduled, List.mem_append, perm.mem_iff, List.mem_append]
  apply mem.imp_left .inr

theorem held_tidy (held : m.Held Holds) (sound : m.Sound) :
  Moment.Held Holds { m with state := m.state.tidy }
  := held_of_trims held sound m.state.trims_tidy m.state.now_pass rfl

theorem held_pass (held : m.Held Holds) (sound : m.Sound) :
  Moment.Held Holds { m with state := m.state.pass }
  := held_of_trims held sound m.state.trims_pass m.state.now_pass rfl

theorem held_perform (forward : c.clock.Forward Holds) {a : Appointment (Deed σ)}
    {due : List (Appointment (Deed σ))}
    (held : Moment.Held Holds { state := s, due := a :: due }) :
  Moment.Held Holds { state := c.perform s a, due := due }
  := by
  have rest := held_tail held
  obtain ⟨now, same | ⟨k, args, -, -, -, more⟩⟩ := perform_frame c s a
  · apply held_of_agenda rest same now
  · have ends := forward.holds s.now (c.duration args) rest.now
    apply held_of_agenda (held_appoint rest (.finish k) ends) more now

theorem held_foldl (forward : c.clock.Forward Holds) {due : List (Appointment (Deed σ))}
    (held : Moment.Held Holds { state := s, due := due }) :
  Moment.Held Holds { state := due.foldl c.perform s, due := [] }
  := by
  induction due generalizing s with
  | nil => exact held
  | cons a rest ih => apply ih (held_perform forward held)

theorem held_turn (forward : c.clock.Forward Holds)
    (sound : Moment.Sound { state := s, due := [] })
    (held : Moment.Held Holds { state := s, due := [] }) :
  Moment.Held Holds { state := (c.turn s).1, due := [] }
  := by
  have tidied := sound_tidy sound
  have jumped : Moment.Held Holds { state := (c.jump s.tidy).1, due := _ } :=
    held_jump (held_tidy held sound)
  rw [turn_eq]
  apply held_foldl forward (held_pass jumped (sound_jump c tidied))

/-! ### Runs -/

variable {log : List (Act σ α ρ)}

theorem held_turnsUntilAwake (forward : c.clock.Forward Holds) (fuel : Nat)
    (reached : Reached c log { state := s, due := [] })
    (held : Moment.Held Holds { state := s, due := [] }) :
  Moment.Held Holds { state := c.turnsUntilAwake fuel s, due := [] }
  := by
  refine (turnsUntilAwake_induction (P := fun s => Reached c log { state := s, due := [] }
    ∧ Moment.Held Holds { state := s, due := [] }) ?_ fuel ⟨reached, held⟩).2
  rintro s ⟨reached, held⟩
  exact ⟨reached_turn reached, held_turn forward (sound_of_reached reached) held⟩

theorem held_sleepUntil (forward : c.clock.Forward Holds) (time : Nat)
    (reached : Reached c log { state := s, due := [] })
    (held : Moment.Held Holds { state := s, due := [] }) :
  Moment.Held Holds { state := c.sleepUntil time s, due := [] }
  := by
  rw [sleepUntil]
  split
  · apply held
  · apply held_turnsUntilAwake forward _ (reached.sleep _)
    apply held_appoint held
    apply forward.holds s.now _ held.now

theorem held_ask (held : m.Held Holds) (sound : m.Sound) (q : Request σ α)
    (waits : ∀ k args, q = .submit k args → Holds (c.clock.after m.state.now c.wait)) :
  Moment.Held Holds { m with state := c.apply m.state q }
  := by
  have now := (c.apply_frame m.state q).1
  obtain ⟨s, agenda, now', same, trims, kept | ⟨k, args, request, added⟩⟩ :=
    c.apply_agenda m.state q
  all_goals
    have before : Moment.Held Holds { m with state := s } := held_of_agenda held same now'
    have trimmed : Moment.Held Holds { m with state := { s with agenda := agenda } } :=
      held_of_trims before (sound_of_agenda sound same rfl) trims rfl rfl
  · apply held_of_agenda trimmed kept (now.trans now'.symm)
  · have appointed := held_appoint trimmed (.close k) (waits k args request)
    apply held_of_agenda appointed added (now.trans now'.symm)

/-- No window of a run closes before the submit that lets it wait. -/
theorem forward_acts (forward : c.clock.Forward Holds) {requests : List (Timed σ α)}
    (reached : Reached c log { state := s, due := [] })
    (held : Moment.Held Holds { state := s, due := [] }) :
  ∀ act ∈ c.acts s requests, act.before.state.now ≤ act.closesAt c
  := by
  induction requests generalizing log s with
  | nil =>
    intro act mem
    cases mem
  | cons r rest ih =>
    have slept := reached_sleepUntil r.time reached
    have awake := held_sleepUntil forward r.time reached held
    rw [acts, List.forall_mem_cons]
    constructor
    · apply forward.le_after
      apply awake.now
    · apply ih (slept.ask r.request)
      apply held_ask awake (sound_of_reached slept) r.request
      intro _ _ _
      apply forward.holds _ c.wait awake.now

end ReflexPolicy.Coalescer
