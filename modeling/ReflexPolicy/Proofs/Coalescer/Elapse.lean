import ReflexPolicy.Proofs.Coalescer.Sessions

/-!
# Sleeps

What a sleep does to a session can be told exactly, whatever else is due in the meantime: in a turn
the session does what is next to happen, if that is due then, and from one time to another it does
what `Track.elapse` says.  So it is for every session at once, by `mirrors_sleepUntil`, and for the
long sleep at the end of a run, by `mirrors_drain`.
-/

namespace ReflexPolicy.Coalescer

variable {σ α ρ : Type} {c : Coalescer α ρ} {s : State σ α ρ}

/-! ### The clock -/

/-- Nothing is left in the agenda that is due when the clock has jumped. -/
theorem later_jump (ordered : s.agenda.IsOrdered) {a : Appointment (Deed σ)}
    (left : a ∈ (c.jump s).1.agenda.members) :
  (c.jump s).1.now < a.due
  := by
  rw [jump] at left ⊢
  split at left
  · rename_i none
    rw [members_of_next? none] at left
    cases left
  · apply (Agenda.not_due_of_takeDue ordered (Nat.le_refl _) left).1

variable [BEq σ] {log : List (Act σ α ρ)} {k : σ} {own : Nat → Bool} {v : Track α ρ}
  {Comes : Nat → Prop}

theorem now_turn (c : Coalescer α ρ) (s : State σ α ρ) :
  (c.turn s).1.now = (c.jump s.tidy).1.now
  := by
  have performed (due : List (Appointment (Deed σ))) (s : State σ α ρ) :
      (due.foldl c.perform s).now = s.now := by
    induction due generalizing s with
    | nil => rfl
    | cons a rest ih => rw [List.foldl_cons, ih, (perform_frame c s a).1]
  rw [turn_eq, performed, State.now_pass]

/-- What is not stale stays in the agenda. -/
theorem mem_tidy (filled : s.agenda.Filled) {a : Appointment (Deed σ)}
    (mem : a ∈ s.agenda.members) (live : s.isStale a = false) :
  a ∈ s.tidy.agenda.members
  := by
  obtain ⟨gone, perm, stale⟩ := s.trims_tidy.members filled
  rw [perm.mem_iff, List.mem_append] at mem
  obtain out | left := mem
  · rw [stale a out] at live
    cases live
  · apply left

theorem le_now_turn (reached : Reached c log { state := s, due := [] }) :
  s.now ≤ (c.turn s).1.now
  := by
  rw [now_turn, ← s.now_pass]
  apply (now_jump c (s.trims_tidy.ordered (ordered_of_reached reached))).1

/-- The clock never jumps past what is to be done. -/
theorem now_turn_le (reached : Reached c log { state := s, due := [] })
    {a : Appointment (Deed σ)} (mem : a ∈ s.agenda.members) (live : s.isStale a = false) :
  (c.turn s).1.now ≤ max s.now a.due
  := by
  have tidied := mem_tidy (sound_of_reached reached).filled mem live
  have now : s.tidy.now = s.now := s.now_pass
  rw [now_turn, ← now]
  apply (now_jump c (s.trims_tidy.ordered (ordered_of_reached reached))).2 a tidied

/-- A sleeper who does not wake up in a turn is to wake up later. -/
theorem now_turn_lt (reached : Reached c log { state := s, due := [] }) {w : Appointment (Deed σ)}
    (mem : w ∈ s.agenda.members) (wake : wakes w = true) (sleeps : ¬(c.turn s).2 = true) :
  (c.turn s).1.now < w.due
  := by
  have live : s.isStale w = false := by
    by_contra stale
    rw [Bool.not_eq_false] at stale
    rw [wakes_of_isStale stale] at wake
    cases wake
  obtain ⟨-, -, -, -, perm⟩ := jump_frame c s.tidy
  have tidied := mem_tidy (sound_of_reached reached).filled mem live
  rw [perm.mem_iff, List.mem_append] at tidied
  obtain left | taken := tidied
  · rw [now_turn]
    apply later_jump (s.trims_tidy.ordered (ordered_of_reached reached)) left
  · apply absurd _ sleeps
    apply List.any_eq_true.mpr ⟨w, taken, wake⟩

/-! ### Turns -/

variable [EquivBEq σ]

/-- What is not for a session leaves its track as it is. -/
theorem mirrors_foldl_of_quiet (sharp : c.clock.Sharp Comes)
    (alike : ∀ number number' args, c.result number args = c.result number' args)
    {due : List (Appointment (Deed σ))} (reached : Reached c log { state := s, due := due })
    (mirrors : Mirrors { state := s, due := due } k own v)
    (quiet : ∀ a ∈ due, concerns s k a = false) :
  Mirrors { state := due.foldl c.perform s, due := [] } k own v
  := by
  induction due generalizing s with
  | nil => exact mirrors
  | cons a rest ih =>
    rw [List.forall_mem_cons] at quiet
    have performed := mirrors_perform sharp alike reached mirrors
    rw [quiet.1, if_neg Bool.false_ne_true] at performed
    apply ih reached.perform performed
    intro b mem
    have still := (effect_of_phases (c := c) (phases_of_reached reached)).still quiet.1
    rw [← quiet.2 b mem]
    apply concerns_of_still still

/-- What is due is done, and the session does what is next to happen to it. -/
theorem mirrors_foldl (sharp : c.clock.Sharp Comes)
    (alike : ∀ number number' args, c.result number args = c.result number' args)
    {due : List (Appointment (Deed σ))} (reached : Reached c log { state := s, due := due })
    (mirrors : Mirrors { state := s, due := due } k own v)
    (awaits : (∃ a ∈ due, concerns s k a = true) ∨ v.happen c s.now = v) :
  Mirrors { state := due.foldl c.perform s, due := [] } k own (v.happen c s.now)
  := by
  induction due generalizing s with
  | nil =>
    obtain ⟨_, mem, -⟩ | nothing := awaits
    · cases mem
    · rw [nothing]
      apply mirrors
  | cons a rest ih =>
    have performed := mirrors_perform sharp alike reached mirrors
    have effect := effect_of_phases (c := c) (phases_of_reached reached)
    have now := (perform_frame c s a).1
    cases concerned : concerns s k a with
    | true =>
      -- It is done now, and nothing else that is due is for the session.
      rw [if_pos concerned] at performed
      apply mirrors_foldl_of_quiet sharp alike reached.perform performed
      intro b mem
      apply effect.quiet concerned (sound_of_reached reached)
      · apply List.mem_append_right _ (List.mem_cons_of_mem a mem)
      · apply List.mem_append_right _ mem
    | false =>
      rw [concerned, if_neg Bool.false_ne_true] at performed
      rw [List.foldl_cons, ← now]
      apply ih reached.perform performed
      rw [now]
      apply awaits.imp_left
      rintro ⟨b, mem, mine⟩
      obtain rfl | mem := List.mem_cons.mp mem
      · rw [concerned] at mine
        cases mine
      · use b, mem
        rw [← mine]
        apply concerns_of_still (effect.still concerned)

/-- In a turn a session does what is next to happen to it, if that is due. -/
theorem mirrors_turn (sharp : c.clock.Sharp Comes)
    (alike : ∀ number number' args, c.result number args = c.result number' args)
    (reached : Reached c log { state := s, due := [] })
    (mirrors : Mirrors { state := s, due := [] } k own v) :
  Mirrors { state := (c.turn s).1, due := [] } k own (v.happen c (c.turn s).1.now)
  := by
  have jumped := mirrors_jump reached mirrors
  have tidied := sound_tidy (sound_of_reached reached)
  have ordered := s.trims_tidy.ordered (ordered_of_reached reached)
  rw [now_turn, ← State.now_pass, turn_eq]
  apply mirrors_foldl sharp alike reached.jump jumped
  by_cases due : ∃ a ∈ (c.jump s.tidy).2, concerns (c.jump s.tidy).1.pass k a = true
  · exact .inl due
  · right
    have later : ∀ a ∈ (c.jump s.tidy).1.pass.agenda.members ++ (c.jump s.tidy).2,
        concerns (c.jump s.tidy).1.pass k a = true → (c.jump s.tidy).1.pass.now < a.due := by
      intro a mem mine
      obtain left | taken := List.mem_append.mp mem
      · obtain ⟨gone, perm, -⟩ :=
          (State.trims_pass (c.jump s.tidy).1).members (sound_jump c tidied).filled
        rw [State.now_pass]
        apply later_jump ordered
        apply perm.mem_iff.mpr (List.mem_append_right gone left)
      · apply absurd ⟨a, taken, mine⟩ due
    apply Track.happen_of_ahead (jumped.later later).1 (jumped.later later).2

/-! ### Sleeps -/

theorem Asleep.mirrors_turnsUntilAwake (sharp : c.clock.Sharp Comes)
    (alike : ∀ number number' args, c.result number args = c.result number' args) {fuel : Nat}
    {w : Appointment (Deed σ)} (asleep : Asleep c log w fuel s) (late : 0 < w.due)
    (mirrors : Mirrors { state := s, due := [] } k own v) :
  Mirrors { state := c.turnsUntilAwake fuel s, due := [] } k own
    ((v.advance c (w.due - 1)).happen c w.due)
  := by
  induction fuel generalizing s v with
  | zero => exact absurd rfl asleep.fuel_ne_zero
  | succ fuel ih =>
    have after := asleep.turn sharp
    have turned := mirrors_turn sharp alike asleep.reached mirrors
    simp only [turnsUntilAwake]
    split
    · -- Until then nothing has happened to the session.
      rename_i wake
      rw [if_pos wake] at after
      have ahead : ∀ a ∈ s.agenda.members ++ [], concerns s k a = true → w.due - 1 < a.due := by
        intro a mem mine
        rw [List.append_nil] at mem
        have before := now_turn_le (c := c) asleep.reached mem (live_of_concerns mine)
        have later := asleep.timely.later a mem rfl
        simp only at later
        omega
      have still := mirrors.later ahead
      rw [Track.advance_of_ahead still.1 still.2, ← after.1]
      apply turned
    · rename_i sleeps
      rw [if_neg sleeps] at after
      have less := now_turn_lt asleep.reached asleep.mem.1 asleep.mem.2 sleeps
      have slept := ih after turned
      rw [Track.advance_happen (by omega)] at slept
      apply slept

/-- Exactly what is due happens while someone sleeps. -/
theorem mirrors_sleepUntil (sharp : c.clock.Sharp Comes)
    (alike : ∀ number number' args, c.result number args = c.result number' args) {time : Nat}
    (comes : Comes time) (now : Comes s.now) (reached : Reached c log { state := s, due := [] })
    (rested : Rested c.clock s) (mirrors : Mirrors { state := s, due := [] } k own v) :
  Mirrors { state := c.sleepUntil time s, due := [] } k own (v.elapse c s.now time)
  := by
  rw [sleepUntil, Track.elapse]
  split
  · apply mirrors
  · rename_i ahead
    have later := Nat.le_of_not_le ahead
    rw [sharp.sleeps s.now time now comes later]
    apply (asleep_of_rested reached rested later).mirrors_turnsUntilAwake sharp alike _
      (mirrors_sleep time mirrors)
    apply Nat.pos_of_ne_zero
    rintro rfl
    apply ahead (Nat.zero_le _)

theorem mirrors_turnsToTheEnd (sharp : c.clock.Sharp Comes)
    (alike : ∀ number number' args, c.result number args = c.result number' args) (fuel : Nat)
    (reached : Reached c log { state := s, due := [] })
    (mirrors : Mirrors { state := s, due := [] } k own v) :
  s.now ≤ (c.turnsToTheEnd fuel s).now
    ∧ ∃ v', Mirrors { state := c.turnsToTheEnd fuel s, due := [] } k own v'
      ∧ ∀ time, (c.turnsToTheEnd fuel s).now ≤ time → v'.advance c time = v.advance c time
  := by
  induction fuel generalizing s v with
  | zero => exact ⟨Nat.le_refl _, v, mirrors, fun _ _ => rfl⟩
  | succ fuel ih =>
    rw [turnsToTheEnd]
    split
    · exact ⟨Nat.le_refl _, v, mirrors, fun _ _ => rfl⟩
    · obtain ⟨later, v', mirrors', same⟩ :=
        ih (reached_turn reached) (mirrors_turn sharp alike reached mirrors)
      refine ⟨Nat.le_trans (le_now_turn reached) later, v', mirrors', ?_⟩
      intro time late
      rw [same time late, Track.advance_happen (Nat.le_trans later late)]

/-- In the end a session has done all that it was to do. -/
theorem mirrors_drain (sharp : c.clock.Sharp Comes)
    (alike : ∀ number number' args, c.result number args = c.result number' args)
    (reached : Reached c log { state := s, due := [] })
    (mirrors : Mirrors { state := s, due := [] } k own v) {time : Nat}
    (late : (c.drain s).now ≤ time) :
  Mirrors { state := c.drain s, due := [] } k own (v.advance c time)
  := by
  have asleep := reached.sleep (longAfter s)
  obtain ⟨-, v', mirrors', same⟩ :=
    mirrors_turnsToTheEnd sharp alike _ asleep (mirrors_sleep (longAfter s) mirrors)
  rw [← same time late, mirrors'.advance_of_nothing (scheduled_drain reached) time]
  apply mirrors'

end ReflexPolicy.Coalescer
