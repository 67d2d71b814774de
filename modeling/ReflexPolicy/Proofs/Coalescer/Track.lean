import ReflexPolicy.Proofs.Coalescer.Calls

/-!
# The track of one session

What a coalescer does for one session can be told without the others, and without an agenda: a
window is open or a call runs, calls have been made, and the waiters of the session, numbered among
themselves, have ended or wait.  `Track.advance` says what time alone does to a track, and
`Track.ask` what a request does.
-/

namespace ReflexPolicy.Coalescer

variable {σ α ρ : Type}

/-- What a session has under way, with the time at which it ends. -/
inductive Stage (α : Type) where
  | idle
  | waiting (closes : Nat) (args : α)
  | calling (ends : Nat) (args : α)

/-- The calls of a session, by their times and arguments, and how its waiters have ended, as far as
they have. -/
structure Track (α ρ : Type) where
  stage : Stage α
  calls : List (Nat × α)
  endings : List (Option (Ending ρ))

namespace Track

/-- The track of a session for which nothing has been asked. -/
def start : Track α ρ := { stage := .idle, calls := [], endings := [] }

/-- All waiters end that have not ended before, and nothing is under way. -/
def settle (v : Track α ρ) (time : Nat) (r : Result ρ) : Track α ρ :=
  { v with
    stage := .idle
    endings := v.endings.map fun e => e.or (some { time := time, result := r }) }

/-- A window closes. -/
def close (c : Coalescer α ρ) (v : Track α ρ) (time : Nat) (args : α) : Track α ρ :=
  let called := { v with calls := v.calls ++ [(time, args)] }
  if c.duration args = 0 then called.settle time (c.result 0 args)
  else { called with stage := .calling (c.clock.after time (c.duration args)) args }

/-- The window closes, if that is due by some time. -/
def closeBy (c : Coalescer α ρ) (time : Nat) (v : Track α ρ) : Track α ρ :=
  match v.stage with
  | .waiting closes args => if closes ≤ time then v.close c closes args else v
  | _ => v

/-- The call ends, if that is due by some time. -/
def finishBy (c : Coalescer α ρ) (time : Nat) (v : Track α ρ) : Track α ρ :=
  match v.stage with
  | .calling ends args => if ends ≤ time then v.settle ends (c.result 0 args) else v
  | _ => v

/-- Everything happens that is due by some time. -/
def advance (c : Coalescer α ρ) (time : Nat) (v : Track α ρ) : Track α ρ :=
  (v.closeBy c time).finishBy c time

/-- What is next to happen happens, if that is due by some time. -/
def happen (c : Coalescer α ρ) (time : Nat) (v : Track α ρ) : Track α ρ :=
  match v.stage with
  | .waiting _ _ => v.closeBy c time
  | _ => v.finishBy c time

/-- What a sleep from one time to another one does.  Everything that is due before the second time
happens; at that time itself a window closes or a call ends, but no call that is made then ends. -/
def elapse (c : Coalescer α ρ) (last time : Nat) (v : Track α ρ) : Track α ρ :=
  if time ≤ last then v else (v.advance c (time - 1)).happen c time

/-- A request of the session at some time. -/
def ask (c : Coalescer α ρ) (time : Nat) (q : Request σ α) (v : Track α ρ) : Track α ρ :=
  match q with
  | .submit _ args =>
    match v.stage with
    | .calling _ _ => { v with endings := v.endings ++ [none] }
    | _ =>
      { v with
        stage := .waiting (c.clock.after time c.wait) args
        endings := v.endings ++ [none] }
  | .refused cause =>
    { v with endings := v.endings ++ [some { time := time, result := .refused cause }] }
  | .cancel _ =>
    match v.stage with
    | .waiting _ _ => v.settle time .cancelled
    | _ => v
  | .probe _ => v
  | .drop place =>
    { v with
      endings := v.endings.modify place fun e =>
        e.or (some { time := time, result := .cancelled }) }

/-- Nothing happens at some time, or has happened. -/
structure Clear (c : Coalescer α ρ) (time : Nat) (v : Track α ρ) : Prop where
  window : ∀ closes args, v.stage = .waiting closes args → closes ≠ time
  call : ∀ ends args, v.stage = .calling ends args → ends ≠ time
  calls : ∀ e ∈ v.calls, e.1 ≠ time
    ∧ (c.duration e.2 ≠ 0 → c.clock.after e.1 (c.duration e.2) ≠ time)

/-- What is under way ends at some time or later, and a call ends when it is to. -/
structure Ahead (c : Coalescer α ρ) (time : Nat) (v : Track α ρ) : Prop where
  window : ∀ closes args, v.stage = .waiting closes args → time ≤ closes
  call : ∀ ends args, v.stage = .calling ends args → time ≤ ends
    ∧ ∃ began, (began, args) ∈ v.calls ∧ c.duration args ≠ 0
      ∧ ends = c.clock.after began (c.duration args)

variable {c : Coalescer α ρ} {v : Track α ρ} {last now time : Nat}

theorem closeBy_of_ahead
    (window : ∀ closes args, v.stage = .waiting closes args → time < closes) :
  v.closeBy c time = v
  := by
  rw [closeBy]
  split
  · rename_i closes args stage
    rw [if_neg (Nat.not_le_of_gt (window closes args stage))]
  · rfl

theorem finishBy_of_ahead (call : ∀ ends args, v.stage = .calling ends args → time < ends) :
  v.finishBy c time = v
  := by
  rw [finishBy]
  split
  · rename_i ends args stage
    rw [if_neg (Nat.not_le_of_gt (call ends args stage))]
  · rfl

/-- Time does nothing to a track while everything is ahead. -/
theorem advance_of_ahead (window : ∀ closes args, v.stage = .waiting closes args → time < closes)
    (call : ∀ ends args, v.stage = .calling ends args → time < ends) :
  v.advance c time = v
  := by rw [advance, closeBy_of_ahead window, finishBy_of_ahead call]

/-- A window that has closed makes no difference afterwards. -/
theorem advance_close {closes : Nat} {args : α} (stage : v.stage = .waiting closes args)
    (due : closes ≤ time) :
  (v.close c closes args).advance c time = v.advance c time
  := by
  have closed : v.closeBy c time = v.close c closes args := by
    rw [closeBy, stage]
    apply if_pos due
  have again : (v.close c closes args).closeBy c time = v.close c closes args := by
    rw [close]
    split <;> rfl
  rw [advance, advance, closed, again]

/-- A call that has ended makes no difference afterwards. -/
theorem advance_finish {ends : Nat} {args : α} (stage : v.stage = .calling ends args)
    (due : ends ≤ time) :
  (v.settle ends (c.result 0 args)).advance c time = v.advance c time
  := by
  have finished : v.finishBy c time = v.settle ends (c.result 0 args) := by
    rw [finishBy, stage]
    apply if_pos due
  have waits : v.closeBy c time = v := by
    rw [closeBy, stage]
  rw [advance, advance, waits, finished]
  rfl

/-- Nothing happens to a track while everything is ahead. -/
theorem happen_of_ahead (window : ∀ closes args, v.stage = .waiting closes args → time < closes)
    (call : ∀ ends args, v.stage = .calling ends args → time < ends) :
  v.happen c time = v
  := by
  rw [happen]
  split
  · apply closeBy_of_ahead window
  · apply finishBy_of_ahead call

theorem happen_waiting {closes : Nat} {args : α} (stage : v.stage = .waiting closes args)
    (due : closes ≤ time) :
  v.happen c time = v.close c closes args
  := by
  rw [happen, stage, closeBy, stage]
  apply if_pos due

theorem happen_calling {ends : Nat} {args : α} (stage : v.stage = .calling ends args)
    (due : ends ≤ time) :
  v.happen c time = v.settle ends (c.result 0 args)
  := by
  rw [happen, stage, finishBy, stage]
  apply if_pos due

/-- What has happened makes no difference afterwards. -/
theorem advance_happen (due : now ≤ time) :
  (v.happen c now).advance c time = v.advance c time
  := by
  obtain ⟨stage, calls, endings⟩ := v
  cases stage with
  | idle => rfl
  | waiting closes args =>
    by_cases past : closes ≤ now
    · rw [happen_waiting rfl past, advance_close rfl (Nat.le_trans past due)]
    · simp [happen, closeBy, past]
  | calling ends args =>
    by_cases past : ends ≤ now
    · rw [happen_calling rfl past, advance_finish rfl (Nat.le_trans past due)]
    · simp [happen, finishBy, past]

/-- At most two things happen to a track by themselves: its window closes, and its call ends. -/
theorem advance_eq_happen (c : Coalescer α ρ) (time : Nat) (v : Track α ρ) :
  v.advance c time = (v.happen c time).happen c time
  := by
  obtain ⟨stage, calls, endings⟩ := v
  cases stage with
  | idle => rfl
  | waiting closes args =>
    by_cases past : closes ≤ time
    · have closed := happen_waiting (c := c) (v := ⟨.waiting closes args, calls, endings⟩) rfl past
      rw [closed, ← advance_close rfl past, close]
      split <;> rfl
    · simp [advance, happen, closeBy, finishBy, past]
  | calling ends args =>
    by_cases past : ends ≤ time
    · have finished := happen_calling (c := c) (v := ⟨.calling ends args, calls, endings⟩) rfl past
      rw [finished, ← advance_finish rfl past]
      rfl
    · simp [advance, happen, closeBy, finishBy, past]

theorem advance_advance (due : now ≤ time) :
  (v.advance c now).advance c time = v.advance c time
  := by rw [advance_eq_happen c now, advance_happen due, advance_happen due]

theorem advance_elapse (due : now ≤ time) :
  (v.elapse c last now).advance c time = v.advance c time
  := by
  rw [elapse]
  split
  · rfl
  · rw [advance_happen due, advance_advance]
    omega

theorem elapse_self (c : Coalescer α ρ) (time : Nat) (v : Track α ρ) :
  v.elapse c time time = v
  := if_pos (Nat.le_refl time)

/-- One sleep after another is one sleep. -/
theorem elapse_elapse (before : last ≤ now) (after : now ≤ time) :
  (v.elapse c last now).elapse c now time = v.elapse c last time
  := by
  obtain rfl | awake := Nat.eq_or_lt_of_le after
  · apply elapse_self
  · have early : ¬time ≤ last := by omega
    rw [elapse, if_neg (Nat.not_le_of_gt awake), advance_elapse (by omega), elapse, if_neg early]

theorem calls_finishBy (c : Coalescer α ρ) (time : Nat) (v : Track α ρ) :
  (v.finishBy c time).calls = v.calls
  := by
  rw [finishBy]
  split
  · split <;> rfl
  · rfl

theorem calls_close (c : Coalescer α ρ) (v : Track α ρ) (closes : Nat) (args : α) :
  (v.close c closes args).calls = v.calls ++ [(closes, args)]
  := by
  rw [close]
  split <;> rfl

/-- A track from which time leads to nothing at that very time has got there before. -/
theorem advance_of_clear (ahead : v.Ahead c time) (clear : (v.advance c time).Clear c time) :
  v.advance c time = v
  := by
  apply advance_of_ahead
  · intro closes args stage
    apply Nat.lt_of_le_of_ne (ahead.window closes args stage)
    rintro rfl
    -- Otherwise a call would have been made at that time.
    have closed : v.closeBy c time = v.close c time args := by
      rw [closeBy, stage]
      apply if_pos (Nat.le_refl _)
    have mem : (time, args) ∈ (v.advance c time).calls := by
      rw [advance, calls_finishBy, closed, calls_close]
      apply List.mem_append_right _ (List.mem_singleton_self _)
    exact (clear.calls _ mem).1 rfl
  · intro ends args stage
    obtain ⟨later, began, mem, lasting, rfl⟩ := ahead.call ends args stage
    apply Nat.lt_of_le_of_ne later
    -- Otherwise a call would have ended at that time.
    have waits : v.closeBy c time = v := by
      rw [closeBy, stage]
    have mem' : (began, args) ∈ (v.advance c time).calls := by
      rw [advance, calls_finishBy, waits]
      apply mem
    exact fun same => (clear.calls _ mem').2 lasting same.symm

end Track

end ReflexPolicy.Coalescer
