import ReflexPolicy.Proofs.Binary64.Rounding
import ReflexPolicy.Proofs.Coalescer.SingleFlight

/-!
# Windows close in time

A clock may take what is due a little later for due already; `Clock.Near` says which times it does
not tell apart.  What is due in a turn was appointed for such a time: the clock jumps from one
appointment to the next, and passes none of them.  The exact clock tells all times apart.
-/

namespace ReflexPolicy

namespace Clock

/-- What is due at the later time is not due at the earlier one. -/
def Past (clock : Clock) (earlier later : Nat) : Prop :=
  earlier < later ∧ clock.horizon earlier ≤ later

/-- What is due at the later time is due at the earlier one, or they are the same. -/
def Near (clock : Clock) (now due : Nat) : Prop := now ≤ due ∧ ¬clock.Past now due

instance (clock : Clock) (earlier later : Nat) : Decidable (clock.Past earlier later) :=
  inferInstanceAs (Decidable (earlier < later ∧ clock.horizon earlier ≤ later))

/-- No time lies before the one that it is counted from, when times are counted from those that
the clock holds. -/
structure Forward (clock : Clock) (Holds : Nat → Prop) : Prop where
  zero : Holds 0
  holds : ∀ tick span, Holds tick → Holds (clock.after tick span)
  le_after : ∀ tick span, Holds tick → tick ≤ clock.after tick span

theorem forward_exact :
  exact.Forward fun _ => True
  where
    zero := trivial
    holds := fun _ _ _ => trivial
    le_after := fun _ _ _ => Nat.le_add_right _ _

theorem forward_binary64 :
  binary64.Forward Significant
  where
    zero := significant_zero
    holds := fun tick span _ => significant_roundUnits (tick + span) 1
    le_after := fun tick span held => le_roundUnits_of_le held (Nat.le_add_right tick span)

theorem near_exact {now due : Nat} :
  exact.Near now due ↔ now = due
  := by
  simp only [Near, Past, exact]
  omega

variable {clock : Clock} {earlier now later due : Nat}

theorem Past.trans_le (past : clock.Past earlier now) (le : now ≤ later) :
  clock.Past earlier later
  := ⟨Nat.lt_of_lt_of_le past.1 le, Nat.le_trans past.2 le⟩

/-- What is past a time is past all that is near to it. -/
theorem Near.lt_of_past (near : clock.Near now due) (past : clock.Past now later) :
  due < later
  := by
  by_contra le
  rw [Nat.not_lt] at le
  apply near.2 (past.trans_le le)

end Clock

namespace Coalescer

variable {σ α ρ : Type}

/-- A window closes at the appointment. -/
def isClosing (a : Appointment (Deed σ)) : Bool :=
  match a.deed with
  | .close _ => true
  | _ => false

theorem isClosing_of_closes [BEq σ] {k : σ} {a : Appointment (Deed σ)} (closing : closes k a = true) :
  isClosing a = true
  := by
  rw [isClosing]
  rw [closes] at closing
  cases deed : a.deed with
  | close k' => rfl
  | finish k' =>
    rw [deed] at closing
    cases closing
  | wake =>
    rw [deed] at closing
    cases closing

/-- The time at which the window closes that a submit lets wait. -/
def Act.closesAt (act : Act σ α ρ) (c : Coalescer α ρ) : Nat :=
  c.clock.after act.before.state.now c.wait

/-- Certain appointments are kept in time. -/
structure Moment.Timely (clock : Clock) (minded : Appointment (Deed σ) → Bool)
    (m : Moment σ α ρ) : Prop where
  ordered : m.state.agenda.IsOrdered
  later : ∀ a ∈ m.state.agenda.members, minded a = true → m.state.now ≤ a.due
  near : ∀ a ∈ m.due, minded a = true → clock.Near m.state.now a.due

variable {c : Coalescer α ρ} {m : Moment σ α ρ} {clock : Clock}
  {minded : Appointment (Deed σ) → Bool}

theorem timely_of_agenda {m' : Moment σ α ρ} (timely : m.Timely clock minded)
    (agenda : m'.state.agenda = m.state.agenda) (now : m'.state.now = m.state.now)
    (due : m'.due = m.due) :
  m'.Timely clock minded
  := by
  obtain ⟨ordered, later, near⟩ := timely
  constructor
  · rw [agenda]
    apply ordered
  · rw [agenda, now]
    apply later
  · rw [due, now]
    apply near

/-- Appointments are made for now or later. -/
theorem timely_appoint (timely : m.Timely clock minded) {due : Nat} {deed : Deed σ}
    (later : minded { due := due, number := m.state.agenda.made, deed := deed } = true →
      m.state.now ≤ due) :
  Moment.Timely clock minded { m with state := m.state.appoint due deed }
  where
    ordered := Agenda.isOrdered_add due deed timely.ordered
    later := by
      intro a mem minds
      rw [State.appoint, (Agenda.members_add _ _ _).mem_iff, List.mem_cons] at mem
      obtain rfl | mem := mem
      · apply later minds
      · apply timely.later a mem minds
    near := timely.near

/-- The clock jumps to the time of the next appointment, and takes what is near to it. -/
theorem timely_jump {s : State σ α ρ}
    (timely : Moment.Timely c.clock minded { state := s, due := [] }) :
  Moment.Timely c.clock minded { state := (c.jump s).1, due := (c.jump s).2 }
    ∧ s.now ≤ (c.jump s).1.now
  := by
  rw [jump]
  split
  · exact ⟨timely, Nat.le_refl _⟩
  · rename_i a next
    simp only
    constructor
    · exact {
        ordered := Agenda.isOrdered_takeDue _ _ _ timely.ordered
        later := by
          intro b mem _
          have after := Agenda.not_due_of_takeDue timely.ordered (Nat.le_refl _) mem
          apply Nat.le_of_lt after.1
        near := by
          intro b mem minds
          have member : b ∈ s.agenda.members := by
            apply (Agenda.members_takeDue _ _ _ _).mem_iff.mpr
            apply List.mem_append_left _ mem
          have now_le := timely.later b member minds
          have next_le := Agenda.next?_le timely.ordered next member
          have due := Agenda.due_of_takeDue mem
          constructor
          · apply Nat.max_le.mpr ⟨now_le, next_le⟩
          · rintro ⟨lt, le⟩
            simp only at lt le
            omega }
    · apply Nat.le_max_left

variable [BEq σ]

theorem timely_of_trims {m' : Moment σ α ρ} (timely : m.Timely clock minded) (sound : m.Sound)
    (trims : m.state.Trims m'.state.agenda) (now : m'.state.now = m.state.now)
    (due : m'.due = m.due) :
  m'.Timely clock minded
  where
    ordered := trims.ordered timely.ordered
    later := by
      intro a mem minds
      obtain ⟨gone, perm, -⟩ := trims.members sound.filled
      rw [now]
      apply timely.later a _ minds
      apply perm.mem_iff.mpr
      apply List.mem_append_right _ mem
    near := by
      intro a mem minds
      rw [now]
      rw [due] at mem
      apply timely.near a mem minds

theorem timely_pass (timely : m.Timely clock minded) (sound : m.Sound) :
  Moment.Timely clock minded { m with state := m.state.pass }
  := timely_of_trims timely sound m.state.trims_pass m.state.now_pass rfl

theorem timely_tidy (timely : m.Timely clock minded) (sound : m.Sound) :
  Moment.Timely clock minded { m with state := m.state.tidy }
  := timely_of_trims timely sound m.state.trims_tidy m.state.now_pass rfl

theorem timely_ask (timely : m.Timely clock minded) (sound : m.Sound)
    (forward : m.state.now ≤ c.clock.after m.state.now c.wait) (q : Request σ α) :
  Moment.Timely clock minded { m with state := c.apply m.state q }
  := by
  have now := (c.apply_frame m.state q).1
  obtain ⟨s, agenda, now', same, trims, kept | ⟨k, -, -, added⟩⟩ := c.apply_agenda m.state q
  all_goals
    have before : Moment.Timely clock minded { m with state := s } :=
      timely_of_agenda timely same now' rfl
    have trimmed : Moment.Timely clock minded { m with state := { s with agenda := agenda } } :=
      timely_of_trims before (sound_of_agenda sound same rfl) trims rfl rfl
  · exact timely_of_agenda trimmed kept (now.trans now'.symm) rfl
  · have appointed : Moment.Timely clock minded { m with
        state := State.appoint { s with agenda := agenda } (c.clock.after m.state.now c.wait)
          (.close k) } := by
      apply timely_appoint trimmed
      intro _
      simp only [now']
      apply forward
    exact timely_of_agenda appointed added (now.trans now'.symm) rfl

theorem timely_perform {s : State σ α ρ} {a : Appointment (Deed σ)}
    {due : List (Appointment (Deed σ))}
    (timely : Moment.Timely clock minded { state := s, due := a :: due })
    (forward : ∀ span number k,
      minded { due := c.clock.after s.now span, number := number, deed := .finish k } = true →
        s.now ≤ c.clock.after s.now span) :
  Moment.Timely clock minded { state := c.perform s a, due := due }
  := by
  have rest : Moment.Timely clock minded { state := s, due := due } := {
    ordered := timely.ordered
    later := timely.later
    near := fun b mem => timely.near b (List.mem_cons_of_mem a mem) }
  obtain ⟨now, same | ⟨k, args, -, -, -, more⟩⟩ := perform_frame c s a
  · exact timely_of_agenda rest same now rfl
  · have finishing : Moment.Timely clock minded
        { state := s.appoint (c.clock.after s.now (c.duration args)) (.finish k), due := due } := by
      apply timely_appoint rest
      apply forward
    exact timely_of_agenda finishing more now rfl

/-- Appointments are kept in time when none is made for a time before, and nobody minds who wakes
up. -/
theorem timely_of_forward {log : List (Act σ α ρ)} (reached : Reached c log m)
    (asleep : ∀ due number, minded { due := due, number := number, deed := .wake } = false)
    (forward : ∀ act ∈ log, act.before.state.now ≤ act.closesAt c)
    (ends : ∀ tick span number k,
      minded { due := c.clock.after tick span, number := number, deed := .finish k } = true →
        tick ≤ c.clock.after tick span) :
  m.Timely c.clock minded
  := by
  induction reached with
  | start =>
    constructor
    · trivial
    · intro a mem
      cases mem
    · intro a mem
      cases mem
  | ask q before ih =>
    rw [List.forall_mem_append, List.forall_mem_singleton] at forward
    apply timely_ask (ih forward.1) (sound_of_reached before)
    apply forward.2
  | @sleep _ m time before ih =>
    apply timely_appoint (ih forward)
    intro wakes
    rw [asleep] at wakes
    cases wakes
  | jump before ih =>
    have sound := sound_of_reached before
    have tidied := sound_tidy sound
    have jumped := timely_jump (timely_tidy (ih forward) sound)
    apply timely_pass jumped.1 (sound_jump c tidied)
  | @perform _ s a due before ih =>
    apply timely_perform (ih forward)
    apply ends s.now

/-- Windows close in time when none is to close before the submit that lets it wait. -/
theorem timely_of_reached {log : List (Act σ α ρ)} (reached : Reached c log m)
    (forward : ∀ act ∈ log, act.before.state.now ≤ act.closesAt c) :
  m.Timely c.clock isClosing
  := timely_of_forward reached (fun _ _ => rfl) forward nofun

end Coalescer

end ReflexPolicy
