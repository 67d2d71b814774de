import ReflexPolicy.Proofs.Coalescer.SingleFlight

/-!
# Running out

Every turn takes something from what is left to happen: a window that closes may leave the end of
its call, everything else leaves nothing.  So the turns that a run is given at its end are enough,
and then no window is open and no call runs.
-/

namespace ReflexPolicy.Coalescer

variable {σ α ρ : Type}

/-! ### What is left to happen -/

/-- The number of appointments that an appointment stands for: a window that closes may make one
more. -/
def weight (a : Appointment (Deed σ)) : Nat :=
  match a.deed with
  | .close _ => 2
  | _ => 1

theorem weight_pos (a : Appointment (Deed σ)) :
  0 < weight a
  := by
  rw [weight]
  split <;> decide

theorem weight_le (a : Appointment (Deed σ)) :
  weight a ≤ 2
  := by
  rw [weight]
  split <;> decide

/-- The number of appointments that some appointments stand for. -/
def weights : List (Appointment (Deed σ)) → Nat
  | [] => 0
  | a :: as => weight a + weights as

theorem weights_append (as bs : List (Appointment (Deed σ))) :
  weights (as ++ bs) = weights as + weights bs
  := by
  induction as with
  | nil => rw [List.nil_append, weights, Nat.zero_add]
  | cons a rest ih => rw [List.cons_append, weights, weights, ih, Nat.add_assoc]

theorem weights_of_perm {as bs : List (Appointment (Deed σ))} (perm : as.Perm bs) :
  weights as = weights bs
  := by
  induction perm with
  | nil => rfl
  | cons a _ ih => rw [weights, weights, ih]
  | swap a b rest =>
    simp only [weights]
    apply Nat.add_left_comm
  | trans _ _ ih ih' => apply ih.trans ih'

/-- The number of appointments that are still to be done at most. -/
def Moment.load (m : Moment σ α ρ) : Nat := weights m.scheduled

theorem load_of_perm {m m' : Moment σ α ρ} (gone : List (Appointment (Deed σ)))
    (perm : m.scheduled.Perm (gone ++ m'.scheduled)) :
  m.load = weights gone + m'.load
  := by
  rw [Moment.load, weights_of_perm perm, weights_append]
  rfl

theorem scheduled_of_load {m : Moment σ α ρ} (nothing : m.load = 0) :
  m.scheduled = []
  := by
  cases left : m.scheduled with
  | nil => rfl
  | cons a rest =>
    have pos := weight_pos a
    rw [Moment.load, left, weights] at nothing
    omega

theorem members_of_next? {δ : Type} {a : Agenda δ} (none : a.next? = none) :
  a.members = []
  := by
  rw [Agenda.next?] at none
  rw [Agenda.members]
  cases given : a.heap with
  | empty => rfl
  | node b l r =>
    rw [given] at none
    cases none

theorem next?_of_members {δ : Type} {a : Agenda δ} (none : a.members = []) :
  a.next? = .none
  := by
  rw [Agenda.members] at none
  rw [Agenda.next?]
  cases given : a.heap with
  | empty => rfl
  | node b l r =>
    rw [given] at none
    cases none

/-- When the clock jumps, something is due. -/
theorem jump_ne_nil (c : Coalescer α ρ) {s : State σ α ρ} {a : Appointment (Deed σ)}
    (next : s.agenda.next? = some a) :
  (c.jump s).2 ≠ []
  := by
  have some : s.agenda.size = s.agenda.dropNext.size + 1 := Agenda.size_dropNext next
  rw [jump, next, some]
  simp only [Agenda.takeDue, next]
  rw [if_pos (.inl (Nat.le_max_right s.now a.due))]
  simp

theorem load_jump (c : Coalescer α ρ) (s : State σ α ρ) :
  Moment.load { state := (c.jump s).1, due := (c.jump s).2 }
    = Moment.load { state := s, due := [] }
  := by
  obtain ⟨-, -, -, -, perm⟩ := jump_frame c s
  have whole : Moment.load { state := s, due := [] }
      = 0 + Moment.load { state := (c.jump s).1, due := (c.jump s).2 } := by
    apply load_of_perm []
    rw [Moment.scheduled, List.append_nil]
    apply perm
  omega

/-- The turns that a run is given are enough for what is left to happen. -/
theorem load_le_turnsFor (s : State σ α ρ) :
  Moment.load { state := s, due := [] } ≤ turnsFor s
  := by
  have each (as : List (Appointment (Deed σ))) : weights as ≤ 2 * as.length := by
    induction as with
    | nil => apply Nat.le_refl
    | cons a rest ih =>
      have le := weight_le a
      rw [weights, List.length_cons]
      omega
  apply Nat.le_trans (each _)
  rw [Moment.scheduled, List.append_nil, Agenda.members, Heap.length_members]
  apply Nat.le_refl

/-! ### Turns -/

variable [BEq σ] {c : Coalescer α ρ} {log : List (Act σ α ρ)} {s : State σ α ρ}

theorem load_trims {m m' : Moment σ α ρ} (sound : m.Sound)
    (trims : m.state.Trims m'.state.agenda) (due : m'.due = m.due) :
  m'.load ≤ m.load
  := by
  obtain ⟨gone, perm, -⟩ := trims.members sound.filled
  have scheduled : m.scheduled.Perm (gone ++ m'.scheduled) := by
    rw [Moment.scheduled, Moment.scheduled, due, ← List.append_assoc]
    apply perm.append_right
  rw [load_of_perm gone scheduled]
  apply Nat.le_add_left

theorem load_perform {a : Appointment (Deed σ)} {due : List (Appointment (Deed σ))} :
  Moment.load { state := c.perform s a, due := due }
    < Moment.load { state := s, due := a :: due }
  := by
  have taken : Moment.load { state := s, due := a :: due }
      = weight a + Moment.load { state := s, due := due } :=
    load_of_perm [a] (scheduled_cons s a due)
  obtain ⟨-, same | ⟨k, args, deed, -, -, more⟩⟩ := perform_frame c s a
  · have pos := weight_pos a
    have left : Moment.load { state := c.perform s a, due := due }
        = Moment.load { state := s, due := due } := by
      rw [Moment.load, Moment.scheduled, same]
      rfl
    omega
  · have heavy : weight a = 2 := by rw [weight, deed]
    have left : Moment.load { state := c.perform s a, due := due }
        = 1 + Moment.load { state := s, due := due } := by
      let finishing : Appointment (Deed σ) :=
        { due := c.clock.after s.now (c.duration args), number := s.agenda.made, deed := .finish k }
      apply load_of_perm [finishing]
      rw [Moment.scheduled, more]
      apply (Agenda.members_add s.agenda finishing.due finishing.deed).append_right
    omega

theorem load_foldl (due : List (Appointment (Deed σ))) (s : State σ α ρ) :
  Moment.load { state := due.foldl c.perform s, due := [] }
    ≤ Moment.load { state := s, due := due }
  := by
  induction due generalizing s with
  | nil => apply Nat.le_refl
  | cons a rest ih =>
    apply Nat.le_trans (ih (c.perform s a))
    apply Nat.le_of_lt load_perform

theorem load_tidy {m : Moment σ α ρ} (sound : m.Sound) :
  Moment.load { m with state := m.state.tidy } ≤ m.load
  := load_trims sound m.state.trims_tidy rfl

theorem load_pass {m : Moment σ α ρ} (sound : m.Sound) :
  Moment.load { m with state := m.state.pass } ≤ m.load
  := load_trims sound m.state.trims_pass rfl

/-- A turn takes something from what is left to happen. -/
theorem load_turn (sound : Moment.Sound { state := s, due := [] })
    (left : s.agenda.next? ≠ none) :
  Moment.load { state := (c.turn s).1, due := [] } < Moment.load { state := s, due := [] }
  := by
  have tidied := sound_tidy sound
  have first := load_tidy sound
  have second := load_jump c s.tidy
  have third := load_pass (sound_jump c tidied)
  simp only at first third
  rw [turn_eq]
  cases batch : (c.jump s.tidy).2 with
  | cons a rest =>
    rw [batch] at second third
    have one : Moment.load { state := c.perform (c.jump s.tidy).1.pass a, due := rest } < _ :=
      load_perform
    have others := load_foldl (c := c) rest (c.perform (c.jump s.tidy).1.pass a)
    rw [List.foldl_cons]
    omega
  | nil =>
    -- Nothing is due only if all that was left was stale.
    rw [batch] at second third
    have none : s.tidy.agenda.next? = none := by
      by_contra some
      obtain ⟨a, next⟩ := Option.ne_none_iff_exists'.mp some
      apply jump_ne_nil c next batch
    have nothing : Moment.load { state := s.tidy, due := [] } = 0 := by
      rw [Moment.load, Moment.scheduled, members_of_next? none]
      rfl
    have something : Moment.load { state := s, due := [] } ≠ 0 := by
      intro nothing
      apply left
      apply next?_of_members
      have scheduled := scheduled_of_load nothing
      rw [Moment.scheduled, List.append_nil] at scheduled
      apply scheduled
    rw [List.foldl_nil]
    omega

/-! ### The end of a run -/

theorem next?_turnsToTheEnd (fuel : Nat) (reached : Reached c log { state := s, due := [] })
    (enough : Moment.load { state := s, due := [] } ≤ fuel) :
  (c.turnsToTheEnd fuel s).agenda.next? = none
  := by
  induction fuel generalizing s with
  | zero =>
    have scheduled := scheduled_of_load (Nat.le_zero.mp enough)
    rw [Moment.scheduled, List.append_nil] at scheduled
    apply next?_of_members scheduled
  | succ fuel ih =>
    rw [turnsToTheEnd]
    split
    · rename_i none
      rw [Option.isNone_iff_eq_none] at none
      apply none
    · rename_i left
      rw [Option.isNone_iff_eq_none] at left
      have less := load_turn (c := c) (sound_of_reached reached) left
      apply ih (reached_turn reached)
      omega

/-- After a run to the end nothing is scheduled. -/
theorem scheduled_drain (reached : Reached c log { state := s, due := [] }) :
  Moment.scheduled { state := c.drain s, due := [] } = []
  := by
  have asleep := reached.sleep (longAfter s)
  rw [Moment.scheduled, List.append_nil]
  apply members_of_next?
  apply next?_turnsToTheEnd _ asleep (load_le_turnsFor _)

end ReflexPolicy.Coalescer
